import TemplateRules.Proofs.ValueText
import TemplateRules.Rule.FingerprintText

/-!
# What the text of a document tells

The text by which a rule document is identified tells the whole document but the order of its partials:
documents of the same text have the same conditions and rules, in the same order, and the same partial
under every name. A part is faithful if equal texts come from equal parts, and the parts of faithful
parts are put together as the document is.

## Main definitions

* `Value.Faithful`: a way to write values whose texts tell what was written
* `RuleDocument.Agrees`: documents that differ in the order of their partials at most

## Main results

* `ConditionSet.toValue_inj`: texts of condition sets tell the sets
* `Value.FaithfulChain.chainValue`: texts of chains tell the rules
* `RuleDocument.agrees_of_fingerprintText_eq`: texts of documents tell the documents
-/

namespace TemplateRules

open Text

namespace Value

/-! ## Faithful ways to write values -/

/-- A way to write values whose texts tell what was written. -/
structure Faithful {α : Type} (write : α → Value) : Prop where
  plain : ∀ a, (write a).Plain
  inj : ∀ {a b}, (write a).dumpText = (write b).dumpText → a = b

theorem dumpText_ofFields_ne_null (fields : List (String × Value)) :
    (ofFields fields).dumpText ≠ null.dumpText := by
  rw [dumpText_ofFields]
  simp [canonicalEntries, dumpText, withoutNulls, canonical, Scalar.canonical]

theorem dumpText_text_inj {s t : String} (h : (text s).dumpText = (text t).dumpText) : s = t :=
  String.toList_inj.mp (canonicalText_injective h)

theorem Faithful.text : Faithful Value.text := ⟨Plain.text, dumpText_text_inj⟩

theorem dumpText_list (items : List Value) :
    (list items).dumpText = (list (items.map withoutNulls)).canonical := by
  rw [dumpText, withoutNulls, itemsWithoutNulls_eq_map]

theorem dumpText_list_inj {xs ys : List Value} (hxs : ∀ x ∈ xs, x.Plain) (hys : ∀ y ∈ ys, y.Plain)
    (h : (list xs).dumpText = (list ys).dumpText) : xs.map dumpText = ys.map dumpText := by
  have hplain : ∀ {zs : List Value}, (∀ z ∈ zs, z.Plain) → ∀ v ∈ zs.map withoutNulls, v.Plain := by
    intro zs hzs v hv
    obtain ⟨z, hz, rfl⟩ := List.mem_map.mp hv
    exact (hzs z hz).withoutNulls
  have happart : ToldApart ((xs.map withoutNulls).map canonical)
      ((ys.map withoutNulls).map canonical) := by
    intro a ha b hb r s hab
    obtain ⟨v, hv, rfl⟩ := List.mem_map.mp ha
    obtain ⟨w, hw, rfl⟩ := List.mem_map.mp hb
    exact (hplain hxs v hv).append_inj (hplain hys w hw) hab
  rw [dumpText_list, dumpText_list] at h
  obtain ⟨hmap, -⟩ := canonicalList_append_inj (r := []) (s := [])
    (fun v hv => (List.mem_append.mp hv).elim (hplain hxs v) (hplain hys v)) happart
    (congrArg (· ++ []) h)
  rwa [List.map_map, List.map_map] at hmap

section Combinators

variable {α : Type} {write : α → Value}

/-- Lists of what is written faithfully. -/
theorem Faithful.list (hwrite : Faithful write) : Faithful fun as : List α => Value.list (as.map write) where
  plain as := by
    refine .list fun v hv => ?_
    obtain ⟨a, -, rfl⟩ := List.mem_map.mp hv
    exact hwrite.plain a
  inj {as bs} h := by
    have hplain : ∀ cs : List α, ∀ v ∈ cs.map write, v.Plain := by
      intro cs v hv
      obtain ⟨c, -, rfl⟩ := List.mem_map.mp hv
      exact hwrite.plain c
    have hmap := dumpText_list_inj (hplain as) (hplain bs) h
    rw [List.map_map, List.map_map] at hmap
    have hinj : Function.Injective (dumpText ∘ write) := fun _ _ => hwrite.inj
    exact hinj.list_map hmap

/-- What is written faithfully and never as null, or null in its absence. -/
theorem Faithful.orNull (hwrite : Faithful write)
    (hne : ∀ a, (write a).dumpText ≠ null.dumpText) :
    Faithful fun o : Option α => (o.map write).getD null where
  plain o := by
    cases o with
    | none => exact .null
    | some a => exact hwrite.plain a
  inj {o p} h := by
    cases o with
    | none =>
      cases p with
      | none => rfl
      | some b => exact absurd h.symm (hne b)
    | some a =>
      cases p with
      | none => exact absurd h (hne a)
      | some b => exact congrArg some (hwrite.inj h)

end Combinators

theorem Faithful.ofText? : Faithful ofText? := by
  have heq : Value.ofText? = fun o => (o.map Value.text).getD null := by
    funext o
    cases o <;> rfl
  rw [heq]
  refine Faithful.text.orNull fun s => ?_
  simp [dumpText, withoutNulls, canonical, Scalar.canonical, canonicalText]

theorem Faithful.ofTexts : Faithful ofTexts := Faithful.text.list

theorem Faithful.ofTexts? : Faithful ofTexts? := by
  have heq : Value.ofTexts? = fun o => (o.map Value.ofTexts).getD null := by
    funext o
    cases o <;> rfl
  rw [heq]
  refine Faithful.ofTexts.orNull fun xs => ?_
  rw [Value.ofTexts, dumpText_list]
  simp [dumpText, withoutNulls, canonical, Scalar.canonical]

attribute [simp] Plain.null Plain.text

@[simp] theorem plain_ofText? (s : Option String) : (ofText? s).Plain := Faithful.ofText?.plain s

@[simp] theorem plain_ofTexts (xs : List String) : (ofTexts xs).Plain := Faithful.ofTexts.plain xs

@[simp] theorem plain_ofTexts? (xs : Option (List String)) : (ofTexts? xs).Plain :=
  Faithful.ofTexts?.plain xs

/-- Records of faithful fields: the texts of the fields tell the record. -/
theorem Faithful.record {α : Type} {fields : α → List (String × Value)}
    (hplain : ∀ a, ∀ f ∈ fields a, f.2.Plain)
    (hnames : ∀ a b, (fields a).map (·.1) = (fields b).map (·.1))
    (hnodup : ∀ a, ((fields a).map (·.1)).Nodup)
    (hinj : ∀ a b, (fields a).map (·.2.dumpText) = (fields b).map (·.2.dumpText) → a = b) :
    Faithful fun a => ofFields (fields a) where
  plain a := .ofFields (hplain a)
  inj {a b} h := hinj a b (dumpText_ofFields_inj (.ofFields (hplain a)) (.ofFields (hplain b))
    (hnames a b) (hnodup a) h)

end Value

open Value

/-! ## Condition sets -/

theorem Clauses.plain_fields (c : Clauses) : ∀ f ∈ c.fields, f.2.Plain := by
  simp [Clauses.fields]

theorem Clauses.fields_inj {c d : Clauses}
    (h : c.fields.map (·.2.dumpText) = d.fields.map (·.2.dumpText)) : c = d := by
  obtain ⟨_, _, _, _, _, _, _, _, _, _, _⟩ := c
  obtain ⟨_, _, _, _, _, _, _, _, _, _, _⟩ := d
  simp only [Clauses.fields, List.map_cons, List.map_nil, List.cons.injEq, and_true] at h
  obtain ⟨hversion, hcontains, hnotContains, hcontainsAll, hcontainsAny, hfeature, hallFeatures,
    hanyFeatures, hproperty, hvariable, hbuildType⟩ := h
  obtain rfl := Faithful.ofText?.inj hversion
  obtain rfl := Faithful.ofText?.inj hcontains
  obtain rfl := Faithful.ofText?.inj hnotContains
  obtain rfl := Faithful.ofTexts?.inj hcontainsAll
  obtain rfl := Faithful.ofTexts?.inj hcontainsAny
  obtain rfl := Faithful.ofText?.inj hfeature
  obtain rfl := Faithful.ofTexts?.inj hallFeatures
  obtain rfl := Faithful.ofTexts?.inj hanyFeatures
  obtain rfl := Faithful.ofText?.inj hproperty
  obtain rfl := Faithful.ofText?.inj hvariable
  obtain rfl := Faithful.ofText?.inj hbuildType
  rfl

namespace ConditionSet

/-- The fields of a condition set. -/
def fields : ConditionSet → List (String × Value)
  | .mk clauses allOf anyOf negated => clauses.fields ++
      [("allOf", listValue allOf), ("anyOf", listValue anyOf), ("not", optionValue negated)]

theorem toValue_eq (c : ConditionSet) : c.toValue = .ofFields c.fields := by
  obtain ⟨clauses, allOf, anyOf, negated⟩ := c
  rw [toValue, fields]

mutual

theorem plain_toValue : ∀ c : ConditionSet, c.toValue.Plain
  | .mk clauses allOf anyOf negated => by
    have hall := plain_listValue allOf
    have hany := plain_listValue anyOf
    have hnot := plain_optionValue negated
    rw [toValue]
    refine .ofFields fun f hf => ?_
    rcases List.mem_append.mp hf with hf | hf
    · exact clauses.plain_fields f hf
    · simp only [List.mem_cons, List.not_mem_nil, or_false] at hf
      rcases hf with rfl | rfl | rfl <;> assumption

theorem plain_listValue : ∀ cs : Option (List ConditionSet), (listValue cs).Plain
  | none => .null
  | some cs => by
    rw [listValue]
    exact .list (plain_itemValues cs)

theorem plain_itemValues : ∀ cs : List ConditionSet, ∀ v ∈ itemValues cs, v.Plain
  | [] => by simp [itemValues]
  | c :: cs => by
    intro v hv
    rw [itemValues] at hv
    rcases List.mem_cons.mp hv with rfl | hv
    · exact plain_toValue c
    · exact plain_itemValues cs v hv

theorem plain_optionValue : ∀ c : Option ConditionSet, (optionValue c).Plain
  | none => .null
  | some c => by
    rw [optionValue]
    exact plain_toValue c

end

mutual

theorem toValue_inj : ∀ c d : ConditionSet, c.toValue.dumpText = d.toValue.dumpText → c = d
  | .mk clauses allOf anyOf negated, .mk clauses' allOf' anyOf' negated', h => by
    have hplain := plain_toValue (.mk clauses allOf anyOf negated)
    have hplain' := plain_toValue (.mk clauses' allOf' anyOf' negated')
    rw [toValue_eq] at h hplain hplain'
    rw [toValue_eq] at h
    have hfields := dumpText_ofFields_inj hplain hplain' (by simp [fields, Clauses.fields])
      (by simp [fields, Clauses.fields]) h
    simp only [fields, List.map_append] at hfields
    obtain ⟨hclauses, hnested⟩ := List.append_inj hfields (by simp [Clauses.fields])
    simp only [List.map_cons, List.map_nil, List.cons.injEq, and_true] at hnested
    obtain ⟨hall, hany, hnot⟩ := hnested
    rw [Clauses.fields_inj hclauses, listValue_inj allOf allOf' hall, listValue_inj anyOf anyOf' hany,
      optionValue_inj negated negated' hnot]

theorem listValue_inj : ∀ cs ds : Option (List ConditionSet),
    (listValue cs).dumpText = (listValue ds).dumpText → cs = ds
  | none, none, _ => rfl
  | none, some ds, h => by
    rw [listValue, listValue, dumpText_list] at h
    simp [dumpText, withoutNulls, canonical, Scalar.canonical] at h
  | some cs, none, h => by
    rw [listValue, listValue, dumpText_list] at h
    simp [dumpText, withoutNulls, canonical, Scalar.canonical] at h
  | some cs, some ds, h => by
    rw [listValue, listValue] at h
    have hmap := dumpText_list_inj (plain_itemValues cs) (plain_itemValues ds) h
    rw [itemValues_inj cs ds hmap]

theorem itemValues_inj : ∀ cs ds : List ConditionSet,
    (itemValues cs).map dumpText = (itemValues ds).map dumpText → cs = ds
  | [], [], _ => rfl
  | [], d :: ds, h => by simp [itemValues] at h
  | c :: cs, [], h => by simp [itemValues] at h
  | c :: cs, d :: ds, h => by
    rw [itemValues, itemValues, List.map_cons, List.map_cons, List.cons.injEq] at h
    rw [toValue_inj c d h.1, itemValues_inj cs ds h.2]

theorem optionValue_inj : ∀ c d : Option ConditionSet,
    (optionValue c).dumpText = (optionValue d).dumpText → c = d
  | none, none, _ => rfl
  | none, some d, h => by
    rw [optionValue, optionValue, toValue_eq] at h
    exact absurd h.symm (dumpText_ofFields_ne_null _)
  | some c, none, h => by
    rw [optionValue, optionValue, toValue_eq] at h
    exact absurd h (dumpText_ofFields_ne_null _)
  | some c, some d, h => by
    rw [optionValue, optionValue] at h
    rw [toValue_inj c d h]

end

theorem faithful_optionValue : Faithful optionValue :=
  ⟨plain_optionValue, fun {c d} => optionValue_inj c d⟩

attribute [simp] plain_optionValue

end ConditionSet

/-! ## Rules -/

open ConditionSet (faithful_optionValue)

namespace Value

/-- A way to write a rule with the value of its fallback whose texts tell both. -/
structure FaithfulChain {α : Type} (write : Value → α → Value) : Prop where
  plain : ∀ {v : Value} (a : α), v.Plain → (write v a).Plain
  ne_null : ∀ (v : Value) (a : α), (write v a).dumpText ≠ null.dumpText
  inj : ∀ {v w : Value} {a b : α}, v.Plain → w.Plain →
    (write v a).dumpText = (write w b).dumpText → v.dumpText = w.dumpText ∧ a = b

variable {α : Type} {write : Value → α → Value}

/-- Texts of chains tell the rules. -/
theorem FaithfulChain.chainValue (h : FaithfulChain write) : Faithful (chainValue write) := by
  have hplain : ∀ rules : List α, (TemplateRules.chainValue write rules).Plain := by
    intro rules
    induction rules with
    | nil => exact .null
    | cons rule rules ih => exact h.plain rule ih
  refine ⟨hplain, ?_⟩
  intro as
  induction as with
  | nil =>
    intro bs htext
    cases bs with
    | nil => rfl
    | cons b bs => exact absurd htext.symm (h.ne_null _ b)
  | cons a as ih =>
    intro bs htext
    cases bs with
    | nil => exact absurd htext (h.ne_null _ a)
    | cons b bs =>
      obtain ⟨hrest, rfl⟩ := h.inj (hplain as) (hplain bs) htext
      rw [ih hrest]

theorem FaithfulChain.toValue (h : FaithfulChain write) : Faithful (Chain.toValue write) where
  plain c := h.chainValue.plain c.rules
  inj {c d} htext := by
    obtain ⟨first, fallbacks⟩ := c
    obtain ⟨first', fallbacks'⟩ := d
    have hrules := h.chainValue.inj htext
    simp only [Chain.rules, List.cons.injEq] at hrules
    rw [hrules.1, hrules.2]

/-- Records with a fallback among their fields. -/
theorem FaithfulChain.record {fields : Value → α → List (String × Value)}
    (hplain : ∀ v a, v.Plain → ∀ f ∈ fields v a, f.2.Plain)
    (hnames : ∀ v w a b, (fields v a).map (·.1) = (fields w b).map (·.1))
    (hnodup : ∀ v a, ((fields v a).map (·.1)).Nodup)
    (hinj : ∀ v w a b, (fields v a).map (·.2.dumpText) = (fields w b).map (·.2.dumpText) →
      v.dumpText = w.dumpText ∧ a = b) :
    FaithfulChain fun v a => ofFields (fields v a) where
  plain a hv := .ofFields (hplain _ a hv)
  ne_null _ _ := dumpText_ofFields_ne_null _
  inj {v w a b} hv hw h := hinj v w a b (dumpText_ofFields_inj (.ofFields (hplain v a hv))
    (.ofFields (hplain w b hw)) (hnames v w a b) (hnodup v a) h)

end Value

theorem Insertion.faithful_toValue : FaithfulChain Insertion.toValue := by
  refine FaithfulChain.record (fun v i hv => by simpa using hv) (fun _ _ _ _ => rfl) (by simp) ?_
  intro v w i j h
  obtain ⟨_, _, _, _, _⟩ := i
  obtain ⟨_, _, _, _, _⟩ := j
  simp only [List.map_cons, List.map_nil, List.cons.injEq, and_true] at h
  obtain ⟨hafter, hbefore, hedge, hcontent, hconditions, hfallback⟩ := h
  obtain rfl := Faithful.ofText?.inj hafter
  obtain rfl := Faithful.ofText?.inj hbefore
  obtain rfl := Faithful.ofText?.inj hedge
  obtain rfl := dumpText_text_inj hcontent
  obtain rfl := faithful_optionValue.inj hconditions
  exact ⟨hfallback, rfl⟩

theorem ReplacementKind.word_injective : Function.Injective ReplacementKind.word := by
  intro k l
  cases k <;> cases l <;> simp [word]

theorem Replacement.faithful_toValue : FaithfulChain Replacement.toValue := by
  refine FaithfulChain.record (fun v r hv => by simpa using hv) (fun _ _ _ _ => rfl) (by simp) ?_
  intro v w r s h
  obtain ⟨_, _, _, _⟩ := r
  obtain ⟨_, _, _, _⟩ := s
  simp only [List.map_cons, List.map_nil, List.cons.injEq, and_true] at h
  obtain ⟨hfind, hreplacement, hkind, hconditions, hfallback⟩ := h
  obtain rfl := dumpText_text_inj hfind
  obtain rfl := dumpText_text_inj hreplacement
  obtain rfl := ReplacementKind.word_injective (dumpText_text_inj hkind)
  obtain rfl := faithful_optionValue.inj hconditions
  exact ⟨hfallback, rfl⟩

theorem VariantPattern.faithful_toValue : Faithful VariantPattern.toValue := by
  refine Faithful.record (fun p => by simp) (fun _ _ => rfl) (by simp) ?_
  intro p q h
  obtain ⟨_, _⟩ := p
  obtain ⟨_, _⟩ := q
  simp only [List.map_cons, List.map_nil, List.cons.injEq, and_true] at h
  obtain rfl := dumpText_text_inj h.1
  obtain rfl := Faithful.ofTexts.inj h.2
  rfl

/-- Variants, or null in their absence. -/
theorem VariantPattern.faithful_orNull :
    Faithful fun o : Option VariantPattern => (o.map VariantPattern.toValue).getD .null :=
  faithful_toValue.orNull fun _ => dumpText_ofFields_ne_null _

theorem SmartReplacement.faithful_toValue : Faithful SmartReplacement.toValue := by
  refine Faithful.record
    (fun r => by simp [VariantPattern.faithful_orNull.plain r.variants]) (fun _ _ => rfl) (by simp) ?_
  intro r s h
  obtain ⟨_, _, _, _, _⟩ := r
  obtain ⟨_, _, _, _, _⟩ := s
  simp only [List.map_cons, List.map_nil, List.cons.injEq, and_true] at h
  obtain ⟨hcandidates, hpoint, hvariants, hreplacement, hconditions⟩ := h
  obtain rfl := Faithful.ofTexts?.inj hcandidates
  obtain rfl := Faithful.ofText?.inj hpoint
  obtain rfl := VariantPattern.faithful_orNull.inj hvariants
  obtain rfl := dumpText_text_inj hreplacement
  obtain rfl := faithful_optionValue.inj hconditions
  rfl

theorem PatternLocation.faithful_toValue : Faithful PatternLocation.toValue := by
  refine Faithful.record (fun l => by simp) (fun _ _ => rfl) (by simp) ?_
  intro l m h
  obtain ⟨_, _⟩ := l
  obtain ⟨_, _⟩ := m
  simp only [List.map_cons, List.map_nil, List.cons.injEq, and_true] at h
  obtain rfl := Faithful.ofText?.inj h.1
  obtain rfl := Faithful.ofText?.inj h.2
  rfl

theorem faithful_locationsValue : Faithful locationsValue := by
  refine Faithful.record
    (fun ls => by simpa using PatternLocation.faithful_toValue.list.plain ls) (fun _ _ => rfl) (by simp) ?_
  intro ls ms h
  simp only [List.map_cons, List.map_nil, List.cons.injEq, and_true] at h
  exact PatternLocation.faithful_toValue.list.inj h

/-- Locations, or null in their absence. -/
theorem faithful_locationsOrNull : Faithful fun o : Option (List PatternLocation) =>
    (o.map locationsValue).getD .null :=
  faithful_locationsValue.orNull fun _ => dumpText_ofFields_ne_null _

theorem SmartInsertion.faithful_toValue : Faithful SmartInsertion.toValue := by
  refine Faithful.record
    (fun i => by
      simp [faithful_locationsOrNull.plain i.locations,
        Insertion.faithful_toValue.chainValue.plain i.fallbacks]) (fun _ _ => rfl) (by simp) ?_
  intro i j h
  obtain ⟨_, _, _, _, _⟩ := i
  obtain ⟨_, _, _, _, _⟩ := j
  simp only [List.map_cons, List.map_nil, List.cons.injEq, and_true] at h
  obtain ⟨hpoint, hlocations, hcontent, hconditions, hfallbacks⟩ := h
  obtain rfl := Faithful.ofText?.inj hpoint
  obtain rfl := faithful_locationsOrNull.inj hlocations
  obtain rfl := dumpText_text_inj hcontent
  obtain rfl := faithful_optionValue.inj hconditions
  obtain rfl := Insertion.faithful_toValue.chainValue.inj hfallbacks
  rfl

theorem RuleMetadata.faithful_toValue : Faithful RuleMetadata.toValue := by
  refine Faithful.record (fun m => by simp) (fun _ _ => rfl) (by simp) ?_
  intro m n h
  obtain ⟨_, _, _, _⟩ := m
  obtain ⟨_, _, _, _⟩ := n
  simp only [List.map_cons, List.map_nil, List.cons.injEq, and_true] at h
  obtain ⟨hname, hdescription, hversion, hauthor⟩ := h
  obtain rfl := Faithful.ofText?.inj hname
  obtain rfl := Faithful.ofText?.inj hdescription
  obtain rfl := Faithful.ofText?.inj hversion
  obtain rfl := Faithful.ofText?.inj hauthor
  rfl

/-- Metadata, or null in its absence. -/
theorem RuleMetadata.faithful_orNull :
    Faithful fun o : Option RuleMetadata => (o.map RuleMetadata.toValue).getD .null :=
  faithful_toValue.orNull fun _ => dumpText_ofFields_ne_null _

/-! ## Documents -/

/-- Partials as a value. -/
def partialsValue (partials : Table String) : Value :=
  .ofFields (partials.map fun (name, body) => (name, .text body))

theorem plain_partialsValue (partials : Table String) : (partialsValue partials).Plain := by
  refine .ofFields fun f hf => ?_
  obtain ⟨e, -, rfl⟩ := List.mem_map.mp hf
  exact .text e.2

theorem lookup_presentFields_partials (partials : Table String) (name : String) :
    (presentFields (partials.map fun (name, body) => (name, .text body))).lookup name =
      (partials.lookup name).map fun body => canonicalText body.toList := by
  induction partials with
  | nil => rfl
  | cons e partials ih =>
    obtain ⟨n, body⟩ := e
    rw [List.map_cons, presentFields_cons, if_neg (by simp [isNull]), List.lookup_cons,
      List.lookup_cons, ih]
    cases name == n <;> rfl

/-- Texts of partials tell the partial under every name. -/
theorem lookup_eq_of_partialsValue {partials partials' : Table String}
    (h : (partialsValue partials).dumpText = (partialsValue partials').dumpText) (name : String) :
    partials.lookup name = partials'.lookup name := by
  have hsorted := sorted_presentFields_of_dumpText_eq (plain_partialsValue partials)
    (plain_partialsValue partials') h
  have hlookup := congrArg (List.lookup name) hsorted
  rw [Table.lookup_sorted, Table.lookup_sorted, lookup_presentFields_partials,
    lookup_presentFields_partials] at hlookup
  refine Option.map_injective ?_ hlookup
  intro s t hst
  exact String.toList_inj.mp (canonicalText_injective hst)

namespace RuleDocument

/-- Documents that differ in the order of their partials at most. -/
structure Agrees (d e : RuleDocument) : Prop where
  metadata : d.metadata = e.metadata
  conditions : d.conditions = e.conditions
  insertions : d.insertions = e.insertions
  replacements : d.replacements = e.replacements
  smartReplacements : d.smartReplacements = e.smartReplacements
  smartInsertions : d.smartInsertions = e.smartInsertions
  partials : ∀ name, d.partials.lookup name = e.partials.lookup name

theorem plain_toValue (d : RuleDocument) : d.toValue.Plain := by
  refine .ofFields ?_
  simp only [List.forall_mem_cons, List.not_mem_nil, false_implies, implies_true, and_true]
  exact ⟨RuleMetadata.faithful_orNull.plain d.metadata, faithful_optionValue.plain d.conditions,
    Insertion.faithful_toValue.toValue.list.plain d.insertions,
    Replacement.faithful_toValue.toValue.list.plain d.replacements,
    SmartReplacement.faithful_toValue.list.plain d.smartReplacements,
    SmartInsertion.faithful_toValue.list.plain d.smartInsertions, plain_partialsValue d.partials⟩

/-- **Texts of documents tell the documents**, but for the order of the partials. -/
theorem agrees_of_fingerprintText_eq {d e : RuleDocument}
    (h : d.fingerprintText = e.fingerprintText) : d.Agrees e := by
  have htext : d.toValue.dumpText = e.toValue.dumpText := String.ofList_inj.mp h
  have hfields := dumpText_ofFields_inj d.plain_toValue e.plain_toValue rfl (by simp) htext
  simp only [List.map_cons, List.map_nil, List.cons.injEq, and_true] at hfields
  obtain ⟨hmetadata, hconditions, hinsertions, hreplacements, hsmartReplacements, hsmartInsertions,
    hpartials⟩ := hfields
  exact ⟨RuleMetadata.faithful_orNull.inj hmetadata, faithful_optionValue.inj hconditions,
    Insertion.faithful_toValue.toValue.list.inj hinsertions,
    Replacement.faithful_toValue.toValue.list.inj hreplacements,
    SmartReplacement.faithful_toValue.list.inj hsmartReplacements,
    SmartInsertion.faithful_toValue.list.inj hsmartInsertions,
    lookup_eq_of_partialsValue hpartials⟩

end RuleDocument

end TemplateRules
