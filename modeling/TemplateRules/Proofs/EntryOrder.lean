import TemplateRules.Proofs.Records
import TemplateRules.Proofs.SameValue

/-!
# Binding and the order of entries

Binding looks up the entries of a map by their keys, and so takes no notice of the order in which they stand:
values that differ in that order at most are bound to the same part. A record is bound alike if each of its
fields is. Condition sets go by recursion over the set, and chains by induction on their rules.

## Main definitions

* `Value.AnyOrder`: what is bound to a part is bound to it in any order of its entries

## Main results

* `Value.Same.optional`, `Value.Same.required`, `Value.Same.unused`: fields
* `ConditionSet.anyOrder`, `Chain.anyOrder_rules`: the parts that nest
* `RuleMetadata.anyOrder`, `Insertion.anyOrder_chain`, `Replacement.anyOrder_chain`,
  `SmartReplacement.anyOrder`, `SmartInsertion.anyOrder`: the parts of a document
-/

namespace TemplateRules

open Value (asText asTexts orNull)

namespace Value

variable {α : Type} {bind : Value → Bound α} {a default : α}

/-- What is bound to a part is bound to it in any order of its entries. -/
def AnyOrder (bind : Value → Bound α) (a : α) : Prop :=
  ∀ ⦃v w : Value⦄, Same v w → bind v = .ok a → bind w = .ok a

/-! ## Parts -/

/-- A scalar has no entries. -/
theorem AnyOrder.of_scalar (honly : ∀ v, bind v = .ok a → ∃ s, v = .scalar s) : AnyOrder bind a := by
  intro v w hsame hbind
  obtain ⟨s, rfl⟩ := honly v hbind
  cases hsame
  exact hbind

theorem AnyOrder.of_map (honly : ∀ v, bind v = .ok a → ∃ es, v = .map es)
    (hmap : ∀ es fs, Same (.map es) (.map fs) → bind (.map es) = .ok a → bind (.map fs) = .ok a) :
    AnyOrder bind a := by
  intro v w hsame hbind
  obtain ⟨es, rfl⟩ := honly v hbind
  cases hsame with
  | @map _ fs entries => exact hmap es fs (.map entries) hbind

/-- What is read as a structure is a map. -/
theorem exists_map_of_entriesOf {model : String} {bind : List (Scalar × Value) → Bound α} {v : Value}
    (h : (v.entriesOf model >>= bind) = .ok a) : ∃ es, v = .map es := by
  obtain ⟨es, hes, -⟩ := bind_eq_ok.mp h
  exact ⟨es, entriesOf_eq_ok.mp hes⟩

theorem anyOrder_text (s : String) : AnyOrder asText s :=
  .of_scalar fun v h => by cases v <;> simp [asText] at h ⊢

theorem Same.isNull_eq {v w : Value} (h : Same v w) : v.isNull = w.isNull := by
  cases h <;> rfl

/-- A part that may be null is bound in any order if the part is. -/
theorem AnyOrder.orNull {o : Option α} (h : ∀ a ∈ o, AnyOrder bind a) :
    AnyOrder (Value.orNull bind) o := by
  intro v w hsame hbind
  by_cases hnull : v.isNull = true
  · have hnull' : w.isNull = true := hsame.isNull_eq ▸ hnull
    rwa [isNull_iff.mp hnull', ← isNull_iff.mp hnull]
  · have hnull' : ¬ w.isNull = true := hsame.isNull_eq ▸ hnull
    rw [Value.orNull] at hbind ⊢
    · obtain ⟨a, ha, rfl⟩ := map_eq_ok.mp hbind
      exact map_eq_ok.mpr ⟨a, h a rfl hsame ha, rfl⟩
    · exact fun heq => hnull' (isNull_iff.mpr heq)
    · exact fun heq => hnull (isNull_iff.mpr heq)

/-- The items of the same sequences are the same, one by one. -/
theorem Same.itemsOf {v w : Value} (h : Same v w) {items : List Value} (hv : v.itemsOf = .ok items) :
    ∃ others, w.itemsOf = .ok others ∧ List.Forall₂ Same items others := by
  cases h with
  | list hitems =>
    obtain rfl := Except.ok.inj hv
    exact ⟨_, rfl, hitems⟩
  | pair hfirst hsecond =>
    obtain rfl := Except.ok.inj hv
    exact ⟨_, rfl, .cons hfirst (.cons hsecond .nil)⟩
  | members keys =>
    obtain rfl := Except.ok.inj hv
    exact ⟨_, rfl, forall₂_same_refl _⟩
  | scalar s => simp [Value.itemsOf] at hv
  | map entries => simp [Value.itemsOf] at hv

/-- Items that are the same are bound to the same parts. -/
theorem forall₂_of_same {items others : List Value} {as : List α} (h : ∀ a ∈ as, AnyOrder bind a)
    (hsames : List.Forall₂ Same items others)
    (hitems : List.Forall₂ (fun v a => bind v = .ok a) items as) :
    List.Forall₂ (fun v a => bind v = .ok a) others as := by
  induction hsames generalizing as with
  | nil =>
    cases hitems
    exact .nil
  | cons hitem _ ih =>
    obtain _ | ⟨hhead, htail⟩ := hitems
    obtain ⟨hfirst, hrest⟩ := List.forall_mem_cons.mp h
    exact .cons (hfirst hitem hhead) (ih hrest htail)

theorem AnyOrder.sequence {as : List α} (h : ∀ a ∈ as, AnyOrder bind a) :
    AnyOrder (sequenceOf bind) as := by
  intro v w hsame hbind
  obtain ⟨items, hitems, hbound⟩ := bind_eq_ok.mp hbind
  obtain ⟨others, hothers, hsames⟩ := hsame.itemsOf hitems
  have hforall := forall₂_of_same h hsames (Bound.items_eq_ok.mp hbound)
  exact bind_eq_ok.mpr ⟨others, hothers, Bound.items_eq_ok.mpr hforall⟩

theorem anyOrder_texts (xs : List String) : AnyOrder asTexts xs :=
  .sequence fun s _ => anyOrder_text s

theorem anyOrder_text? (o : Option String) : AnyOrder (Value.orNull asText) o :=
  .orNull fun s _ => anyOrder_text s

theorem anyOrder_texts? (o : Option (List String)) : AnyOrder (Value.orNull asTexts) o :=
  .orNull fun xs _ => anyOrder_texts xs

/-! ## Fields -/

section Related

variable {β : Type} {r : α → β → Prop} {o : Option β}

theorem eq_none_of_rel (h : Option.Rel r none o) : o = none := by
  cases h
  rfl

theorem exists_of_rel_some (h : Option.Rel r (some a) o) : ∃ b, o = some b ∧ r a b := by
  obtain ⟨hab⟩ := h
  exact ⟨_, rfl, hab⟩

end Related

section Fields

variable {es fs : List (Scalar × Value)} {f : FieldKey}

theorem Same.lookupKey (h : Same (.map es) (.map fs)) (key : String) :
    Option.Rel Same (TemplateRules.lookupKey key es) (TemplateRules.lookupKey key fs) := by
  rw [← lookup_text, ← lookup_text]
  exact h.lookup (.text key)

/-- A field is given in both of two maps that are the same or in neither, and under the same key. -/
theorem Same.field? (h : Same (.map es) (.map fs)) (f : FieldKey) :
    Option.Rel (fun e g => e.1 = g.1 ∧ Same e.2 g.2) (f.field? es) (f.field? fs) := by
  have hkey := h.lookupKey f.key
  have hname := h.lookupKey f.name
  rw [FieldKey.field?, FieldKey.field?]
  generalize TemplateRules.lookupKey f.key es = o, TemplateRules.lookupKey f.key fs = p at hkey
  generalize TemplateRules.lookupKey f.name es = q, TemplateRules.lookupKey f.name fs = r at hname
  cases hkey with
  | some hvalue => exact .some ⟨rfl, hvalue⟩
  | none =>
    cases hname with
    | some hvalue => exact .some ⟨rfl, hvalue⟩
    | none => exact .none

theorem Same.field?_eq_none (h : Same (.map es) (.map fs)) (hnone : f.field? es = none) :
    f.field? fs = none :=
  eq_none_of_rel (hnone ▸ h.field? f)

theorem Same.field?_eq_some (h : Same (.map es) (.map fs)) {given : String} {v : Value}
    (hsome : f.field? es = some (given, v)) :
    ∃ w, f.field? fs = some (given, w) ∧ Same v w := by
  obtain ⟨⟨_, w⟩, hw, rfl, hvalue⟩ := exists_of_rel_some (hsome ▸ h.field? f)
  exact ⟨w, hw, hvalue⟩

theorem Same.optional (hsame : Same (.map es) (.map fs)) (hbind : AnyOrder bind a)
    (h : f.optional es default bind = .ok a) : f.optional fs default bind = .ok a := by
  rcases FieldKey.optional_eq_ok.mp h with ⟨hnone, rfl⟩ | ⟨given, v, hsome, hv⟩
  · exact FieldKey.optional_eq_ok.mpr (.inl ⟨hsame.field?_eq_none hnone, rfl⟩)
  · obtain ⟨w, hw, hvalue⟩ := hsame.field?_eq_some hsome
    exact FieldKey.optional_eq_ok.mpr (.inr ⟨given, w, hw, hbind hvalue hv⟩)

theorem Same.required (hsame : Same (.map es) (.map fs)) (hbind : AnyOrder bind a)
    (h : f.required es bind = .ok a) : f.required fs bind = .ok a := by
  obtain ⟨given, v, hsome, hv⟩ := FieldKey.required_eq_ok.mp h
  obtain ⟨w, hw, hvalue⟩ := hsame.field?_eq_some hsome
  exact FieldKey.required_eq_ok.mpr ⟨given, w, hw, hbind hvalue hv⟩

/-- Maps that are the same have the same keys. -/
theorem Same.exists_key (hsame : Same (.map es) (.map fs)) {e : Scalar × Value} (he : e ∈ fs) :
    ∃ e' ∈ es, e'.1 = e.1 := by
  by_contra hother
  have hnone : es.lookup e.1 = none := by
    rw [List.lookup_eq_none_iff]
    intro e' he'
    simpa using fun heq : e.1 = e'.1 => hother ⟨e', he', heq.symm⟩
  have hnone' : fs.lookup e.1 = none := eq_none_of_rel (hnone ▸ hsame.lookup e.1)
  simpa using List.lookup_eq_none_iff.mp hnone' e he

/-- No key is left over in another order either, since the same fields are given. -/
theorem Same.unused {keys : List FieldKey} (hsame : Same (.map es) (.map fs))
    (h : FieldKey.unused keys es = []) : FieldKey.unused keys fs = [] := by
  have hused : (keys.filterMap fun f => (f.field? fs).map (·.1)) =
      keys.filterMap fun f => (f.field? es).map (·.1) := by
    refine List.filterMap_congr fun f _ => ?_
    cases hfield : f.field? es with
    | none => rw [hsame.field?_eq_none hfield]
    | some e =>
      obtain ⟨w, hw, -⟩ := hsame.field?_eq_some hfield
      rw [hw]
      rfl
  rw [FieldKey.unused, List.filterMap_eq_nil_iff] at h ⊢
  rintro ⟨k, v⟩ he
  obtain ⟨⟨_, v'⟩, he', rfl⟩ := hsame.exists_key he
  have hknown := h _ he'
  rwa [hused]

end Fields

end Value

open Value

section Fields

variable {es fs : List (Scalar × Value)} {f : FieldKey}

theorem optionalText_of_same {o : Option String} (hsame : Same (.map es) (.map fs))
    (h : optionalText f es = .ok o) : optionalText f fs = .ok o :=
  hsame.optional (anyOrder_text? o) h

end Fields

/-! ## Condition sets -/

namespace ConditionSet

theorem clausesOf_of_same {es fs : List (Scalar × Value)} {c : Clauses}
    (hsame : Same (.map es) (.map fs)) (h : clausesOf es = .ok c) : clausesOf fs = .ok c := by
  obtain ⟨hversion, hcontains, hnotContains, hcontainsAll, hcontainsAny, hfeature, hallFeatures,
    hanyFeatures, hproperty, hvariable, hbuildType⟩ := clausesOf_eq_ok.mp h
  exact clausesOf_eq_ok.mpr ⟨optionalText_of_same hsame hversion, optionalText_of_same hsame hcontains,
    optionalText_of_same hsame hnotContains, hsame.optional (anyOrder_texts? _) hcontainsAll,
    hsame.optional (anyOrder_texts? _) hcontainsAny, optionalText_of_same hsame hfeature,
    hsame.optional (anyOrder_texts? _) hallFeatures, hsame.optional (anyOrder_texts? _) hanyFeatures,
    optionalText_of_same hsame hproperty, optionalText_of_same hsame hvariable,
    optionalText_of_same hsame hbuildType⟩

/-- Only a map is bound to a condition set. -/
theorem exists_map_of_ofValue {v : Value} {c : ConditionSet} (h : ofValue v = .ok c) :
    ∃ es, v = .map es := by
  rcases v with s | _ | _ | es | _
  case map => exact ⟨es, rfl⟩
  case scalar => simp [ofValue_scalar] at h
  all_goals simp [ofValue, ofNullable, required, Bound.misfit] at h

mutual

theorem anyOrder : ∀ c : ConditionSet, AnyOrder ofValue c
  | .mk clauses allOf anyOf negated => by
    refine .of_map (fun v hv => exists_map_of_ofValue hv) fun es fs hsame h => ?_
    obtain ⟨hclauses, hall, hany, hnot, hunused⟩ := ofValue_map.mp h
    exact ofValue_map.mpr ⟨clausesOf_of_same hsame hclauses,
      hsame.optional (anyOrder_list allOf) hall, hsame.optional (anyOrder_list anyOf) hany,
      hsame.optional (anyOrder_option negated) hnot, hsame.unused hunused⟩

theorem anyOrder_list : ∀ cs : Option (List ConditionSet), AnyOrder (orNull (sequenceOf ofValue)) cs
  | none => .orNull (by simp)
  | some cs => by
    refine .orNull fun ds hds => ?_
    obtain rfl := Option.mem_some_iff.mp hds
    exact .sequence (anyOrder_items cs)

theorem anyOrder_items : ∀ cs : List ConditionSet, ∀ c ∈ cs, AnyOrder ofValue c
  | [] => by simp
  | c :: cs => List.forall_mem_cons.mpr ⟨anyOrder c, anyOrder_items cs⟩

theorem anyOrder_option : ∀ c : Option ConditionSet, AnyOrder (orNull ofValue) c
  | none => .orNull (by simp)
  | some c => by
    refine .orNull fun d hd => ?_
    obtain rfl := Option.mem_some_iff.mp hd
    exact anyOrder c

end

theorem anyOrder_nullable (c : Option ConditionSet) : AnyOrder ofNullable c := by
  rw [ofNullable_eq]
  exact anyOrder_option c

end ConditionSet

theorem conditionsField_of_same {es fs : List (Scalar × Value)} {c : Option ConditionSet}
    (hsame : Same (.map es) (.map fs)) (h : conditionsField es = .ok c) : conditionsField fs = .ok c :=
  hsame.optional (ConditionSet.anyOrder_nullable c) h

/-! ## Rules -/

namespace Chain

variable {α : Type} {model : String} {keys : List FieldKey} {level : List (Scalar × Value) → Bound α}

/-- No rules come from null, and rules from a map. -/
theorem of_rulesOf_eq_ok {v : Value} {rules : List α} (h : rulesOf model keys level v = .ok rules) :
    (v = null ∧ rules = []) ∨ ∃ es, v = .map es := by
  rcases v with (_ | _ | _ | _ | _ | _ | _ | _) | _ | _ | es | _
  case map => exact .inr ⟨es, rfl⟩
  all_goals simp [rulesOf] at h
  exact .inl ⟨rfl, h⟩

/-- Rules are bound in any order of the entries if each one is, apart from its fallback. -/
theorem anyOrder_rules
    (hlevel : ∀ ⦃es fs⦄ (rule : α), Same (.map es) (.map fs) → level es = .ok rule →
      level fs = .ok rule) (rules : List α) : AnyOrder (rulesOf model keys level) rules := by
  induction rules with
  | nil =>
    intro v w hsame h
    rcases of_rulesOf_eq_ok h with ⟨rfl, -⟩ | ⟨es, rfl⟩
    · cases hsame
      exact h
    · obtain ⟨_, _, hcons, -⟩ := rulesOf_map.mp h
      exact absurd hcons (by simp)
  | cons rule rest ih =>
    refine .of_map (fun v hv => ?_) fun es fs hsame h => ?_
    · rcases of_rulesOf_eq_ok hv with ⟨-, hnil⟩ | hmap
      · exact absurd hnil (by simp)
      · exact hmap
    · obtain ⟨_, _, hcons, hrule, hrest, hunused⟩ := rulesOf_map.mp h
      obtain ⟨rfl, rfl⟩ := List.cons.inj hcons
      exact rulesOf_map.mpr ⟨rule, rest, rfl, hlevel rule hsame hrule, hsame.optional ih hrest,
        hsame.unused hunused⟩

theorem anyOrder {c : Chain α} (h : AnyOrder (rulesOf model keys level) c.rules) :
    AnyOrder (Chain.ofValue model keys level) c :=
  fun _ _ hsame hbind => ofValue_eq_ok.mpr (h hsame (ofValue_eq_ok.mp hbind))

end Chain

theorem Insertion.anyOrder_rules (rules : List Insertion) : AnyOrder rulesOf rules := by
  refine Chain.anyOrder_rules (fun es fs i hsame h => ?_) rules
  obtain ⟨hafter, hbefore, hedge, hcontent, hconditions⟩ := levelOf_eq_ok.mp h
  exact levelOf_eq_ok.mpr ⟨optionalText_of_same hsame hafter, optionalText_of_same hsame hbefore,
    optionalText_of_same hsame hedge, hsame.required (anyOrder_text _) hcontent,
    conditionsField_of_same hsame hconditions⟩

theorem Insertion.anyOrder_chain (c : Chain Insertion) : AnyOrder chainOf c :=
  Chain.anyOrder (anyOrder_rules c.rules)

theorem ReplacementKind.anyOrder (k : ReplacementKind) : AnyOrder ReplacementKind.ofValue k :=
  .of_scalar fun v h => by cases v <;> simp [ofValue] at h ⊢

theorem Replacement.anyOrder_chain (c : Chain Replacement) : AnyOrder chainOf c := by
  refine Chain.anyOrder (Chain.anyOrder_rules (fun es fs r hsame h => ?_) c.rules)
  obtain ⟨hfind, hreplacement, hkind, hconditions⟩ := levelOf_eq_ok.mp h
  exact levelOf_eq_ok.mpr ⟨hsame.required (anyOrder_text _) hfind,
    hsame.required (anyOrder_text _) hreplacement, hsame.optional r.kind.anyOrder hkind,
    conditionsField_of_same hsame hconditions⟩

theorem VariantPattern.anyOrder (p : VariantPattern) : AnyOrder ofValue p := by
  refine .of_map (fun v hv => exists_map_of_entriesOf hv) fun es fs hsame h => ?_
  obtain ⟨hlabel, hvariants, hunused⟩ := ofValue_map.mp h
  exact ofValue_map.mpr ⟨hsame.required (anyOrder_text _) hlabel,
    hsame.required (anyOrder_texts _) hvariants, hsame.unused hunused⟩

theorem SmartReplacement.anyOrder (r : SmartReplacement) : AnyOrder ofValue r := by
  refine .of_map (fun v hv => exists_map_of_entriesOf hv) fun es fs hsame h => ?_
  obtain ⟨hcandidates, hpoint, hvariants, hreplacement, hconditions, hunused⟩ := ofValue_map.mp h
  exact ofValue_map.mpr ⟨hsame.optional (anyOrder_texts? _) hcandidates,
    optionalText_of_same hsame hpoint,
    hsame.optional (.orNull fun p _ => p.anyOrder) hvariants,
    hsame.required (anyOrder_text _) hreplacement, conditionsField_of_same hsame hconditions,
    hsame.unused hunused⟩

theorem PatternLocation.anyOrder (l : PatternLocation) : AnyOrder ofValue l := by
  refine .of_map (fun v hv => exists_map_of_entriesOf hv) fun es fs hsame h => ?_
  obtain ⟨hafter, hbefore, hunused⟩ := ofValue_map.mp h
  exact ofValue_map.mpr ⟨optionalText_of_same hsame hafter, optionalText_of_same hsame hbefore,
    hsame.unused hunused⟩

theorem anyOrder_locations (ls : List PatternLocation) : AnyOrder locationsOf ls := by
  refine .of_map (fun v hv => exists_map_of_entriesOf hv) fun es fs hsame h => ?_
  obtain ⟨hpatterns, hunused⟩ := locationsOf_map.mp h
  exact locationsOf_map.mpr ⟨hsame.required (.sequence fun l _ => l.anyOrder) hpatterns,
    hsame.unused hunused⟩

theorem SmartInsertion.anyOrder (i : SmartInsertion) : AnyOrder ofValue i := by
  refine .of_map (fun v hv => exists_map_of_entriesOf hv) fun es fs hsame h => ?_
  obtain ⟨hpoint, hlocations, hcontent, hconditions, hfallbacks, hunused⟩ := ofValue_map.mp h
  exact ofValue_map.mpr ⟨optionalText_of_same hsame hpoint,
    hsame.optional (.orNull fun ls _ => anyOrder_locations ls) hlocations,
    hsame.required (anyOrder_text _) hcontent, conditionsField_of_same hsame hconditions,
    hsame.optional (Insertion.anyOrder_rules _) hfallbacks, hsame.unused hunused⟩

/-! ## Metadata -/

theorem anyOrder_version (o : Option String) : AnyOrder versionText o :=
  .of_scalar fun v h => by cases v <;> simp [versionText, orNull, asText, Bound.misfit] at h ⊢

theorem RuleMetadata.anyOrder (m : RuleMetadata) : AnyOrder ofValue m := by
  refine .of_map (fun v hv => exists_map_of_entriesOf hv) fun es fs hsame h => ?_
  obtain ⟨hname, hdescription, hversion, hauthor, hunused⟩ := ofValue_map.mp h
  exact ofValue_map.mpr ⟨optionalText_of_same hsame hname, optionalText_of_same hsame hdescription,
    hsame.optional (anyOrder_version _) hversion, optionalText_of_same hsame hauthor,
    hsame.unused hunused⟩

end TemplateRules
