import TemplateRules.Proofs.Characters
import TemplateRules.Proofs.Grammar
import TemplateRules.Proofs.Walk

/-!
# What the check accepts

The check of a document walks over its keys and then compares shapes. Each of the two looks at a part of
what the grammar says, and each forgets some of it: the walk knows no types of texts, and the shapes know
neither unknown keys nor limits. Together they accept a part exactly if it has the form that the grammar
gives to its place. The comparison of shapes ends at a depth; a part that the walk accepts has nothing
below it, so the depth only has to be large enough for the height of the part.

## Main definitions

* `Structure.HasShape`: a value is of a shape, down to a depth
* `Structure.Accepts`: a check of keys and a shape together accept the values of a form

## Main results

* `Structure.accepts_conditions`, `Structure.accepts_insertion`, `Structure.accepts_replacement`: the
  parts that nest, by induction on the number of levels that the walk has left
* `Structure.check_eq_ok_iff_isDocumentWithin`: what is accepted, for every limit
-/

namespace TemplateRules.Structure

open Grammar
open Text (exists_blanks_around_stripChars sameLetter stripChars stripChars_append)

variable {ρ : Type} {view : View ρ}

/-! ## Kinds -/

theorem sameLetters_iff {as bs : List Char} :
    sameLetters as bs = true ↔ List.Forall₂ (fun a b => sameLetter a b = true) as bs := by
  induction as generalizing bs with
  | nil => cases bs <;> simp [sameLetters]
  | cons a as ih => cases bs <;> simp [sameLetters, ih]

theorem namesKind_iff {s : String} : namesKind s = true ↔ NamesKind s := by
  rw [namesKind, List.any_eq_true, NamesKind]
  constructor
  · rintro ⟨kind, hkind, hsame⟩
    obtain ⟨before, after, hsplit, hbefore, hafter, hhead, hlast⟩ :=
      exists_blanks_around_stripChars s.toList
    exact ⟨before, stripChars s.toList, after, hsplit, hbefore, hafter, hhead, hlast, kind, hkind,
      sameLetters_iff.mp hsame⟩
  · rintro ⟨before, word, after, hsplit, hbefore, hafter, hhead, hlast, kind, hkind, hsame⟩
    have hword : word ≠ [] := by
      rintro rfl
      rcases List.mem_pair.mp hkind with rfl | rfl <;> simp at hsame
    refine ⟨kind, hkind, ?_⟩
    rw [hsplit, stripChars_append hbefore hafter hword hhead hlast]
    exact sameLetters_iff.mpr hsame

/-! ## Shapes -/

attribute [local simp] mismatches

/-- A value is of a shape, down to a depth. -/
def HasShape (view : View ρ) (depth : Nat) (shape : Shape) (v : ρ) : Prop :=
  mismatches view depth shape v = []

@[simp] theorem within_eq_nil {step : PathStep} {found : List Located} :
    within step found = [] ↔ found = [] := by
  simp [within]

@[simp] theorem wrongType_ne_nil {v : ρ} {types : List String} : wrongType view v types ≠ [] := by
  simp [wrongType]

theorem hasShape_text {depth : Nat} : HasShape view (depth + 1) .text = IsText view := by
  funext v
  rcases hlayer : view.layer v with (_ | _ | _ | _ | _ | _ | _ | _) | _ | _ | _ | _ <;>
    simp [HasShape, IsText, hlayer]

theorem hasShape_textOrNumber {depth : Nat} :
    HasShape view (depth + 1) .textOrNumber = IsTextOrNumber view := by
  funext v
  rcases hlayer : view.layer v with (_ | _ | _ | _ | _ | _ | _ | _) | _ | _ | _ | _ <;>
    simp [HasShape, IsTextOrNumber, hlayer, Scalar.isNumber]

theorem hasShape_list {depth : Nat} {item : Shape} :
    HasShape view (depth + 1) (.list item) = IsList view (HasShape view depth item) := by
  funext v
  cases hlayer : view.layer v with
  | list items =>
    simp only [HasShape, mismatches, hlayer, IsList, List.flatMap_eq_nil_iff, within_eq_nil,
      Layer.list.injEq, exists_eq_left', eq_iff_iff]
    constructor
    · intro h part hpart
      obtain ⟨i, hi⟩ := List.mem_iff_getElem?.mp hpart
      exact h (part, i) (List.mk_mem_zipIdx_iff_getElem?.mpr hi)
    · exact fun h e he => h e.1 (List.fst_mem_of_mem_zipIdx he)
  | _ => simp [HasShape, hlayer, IsList]

theorem hasShape_texts {depth : Nat} : HasShape view (depth + 2) .texts = IsTexts view := by
  funext v
  cases hlayer : view.layer v with
  | map entries =>
    simp only [HasShape, mismatches, hlayer, IsTexts, List.flatMap_eq_nil_iff, within_eq_nil,
      Layer.map.injEq, exists_eq_left', eq_iff_iff]
    rw [← @hasShape_text ρ view depth]
    rfl
  | _ => simp [HasShape, hlayer, IsTexts]

theorem hasShape_kind {depth : Nat} : HasShape view (depth + 1) .kind = IsKind view := by
  funext v
  rcases hlayer : view.layer v with (_ | _ | _ | _ | s | _ | _ | _) | _ | _ | _ | _
  case scalar.text =>
    have hkind := @namesKind_iff s
    cases hnames : namesKind s <;> simp_all [HasShape, IsKind]
  all_goals simp [HasShape, IsKind, hlayer]

/-- A map of a form has the properties that the form requires, and each property has its shape. -/
def Fits (view : View ρ) (depth : Nat) (form : Form) (v : ρ) : Prop :=
  ∃ entries, view.layer v = .map entries ∧ (∀ key ∈ form.required, hasKey key entries = true) ∧
    ∀ p ∈ form.properties, Under p.1 entries (HasShape view depth p.2)

theorem hasShape_form {depth : Nat} {form : Form} :
    HasShape view (depth + 1) (.form form) = Fits view depth form := by
  funext v
  cases hlayer : view.layer v with
  | map entries =>
    simp only [HasShape, mismatches, hlayer, Fits, Under, Layer.map.injEq, exists_eq_left',
      List.append_eq_nil_iff, List.map_eq_nil_iff, List.filter_eq_nil_iff, List.flatMap_eq_nil_iff,
      eq_iff_iff]
    refine and_congr (by simp) (forall₂_congr fun p _ => ?_)
    cases lookupKey p.1 entries <;> simp
  | _ => simp [HasShape, hlayer, Fits]

theorem hasShape_formOrNull {depth : Nat} {form : Form} {v : ρ} :
    HasShape view (depth + 1) (.formOrNull form) v ↔
      view.layer v = .scalar .null ∨ Fits view depth form v := by
  rcases hlayer : view.layer v with (_ | _ | _ | _ | _ | _ | _ | _) | _ | _ | entries | _
  case map =>
    have hform : HasShape view (depth + 1) (.formOrNull form) v ↔
        HasShape view (depth + 1) (.form form) v := by
      simp only [HasShape, mismatches, hlayer]
    rw [hform, hasShape_form]
    simp
  all_goals simp [HasShape, hlayer, Fits]

/-! ## Keys and shapes -/

theorem isAmong_eq_true_iff {names : List String} {k : Scalar} :
    isAmong names k = true ↔ ∃ n ∈ names, k = .text n := by
  cases k <;> simp [isAmong]

theorem checkKeys_eq_ok {s : Section} {path : String} {entries : List (Scalar × ρ)} :
    checkKeys s path entries = .ok () ↔ ∀ e ∈ entries, isAmong s.keys e.1 = true := by
  rw [checkKeys]
  split
  · rename_i hfind
    simpa using hfind
  · rename_i key _ hfind
    have hunknown := List.find?_some hfind
    have hmem := List.mem_of_find?_eq_some hfind
    have hnot : ¬ ∀ e ∈ entries, isAmong s.keys e.1 = true := fun h => by simp [h _ hmem] at hunknown
    split <;> simp only [hnot, reduceCtorEq]

theorem requireKey_eq_ok {path key : String} {entries : List (Scalar × ρ)} :
    requireKey path key entries = .ok () ↔ hasKey key entries = true := by
  rw [requireKey]
  split <;> simp_all

/-- Checks a list item by item. -/
def checkList (view : View ρ) (check : String → ρ → Walk) (path : String) (v : ρ) : Walk := do
  checkItems path check (← requireList view path v)

/-- A check of keys and a shape together accept the values of a form, wherever they are. -/
def Accepts (view : View ρ) (check : String → ρ → Walk) (depth : Nat) (shape : Shape)
    (form : ρ → Prop) : Prop :=
  ∀ path v, check path v = .ok () ∧ HasShape view depth shape v ↔ form v

namespace Accepts

variable {check : String → ρ → Walk} {depth : Nat} {shape : Shape} {form : ρ → Prop}

/-- A part is accepted under a key. -/
theorem under (h : Accepts view check depth shape form) (key path : String)
    (entries : List (Scalar × ρ)) :
    Under key entries form ↔
      checkUnder key entries (check path) = .ok () ∧ Under key entries (HasShape view depth shape) := by
  rw [checkUnder_eq_ok, ← Under, ← under_and]
  exact under_congr fun v => (h path v).symm

/-- The items of a list are accepted one by one. -/
theorem list (h : Accepts view check depth shape form) :
    Accepts view (checkList view check) (depth + 1) (.list shape) (IsList view form) := by
  intro path v
  rw [hasShape_list, checkList, bind_eq_ok]
  constructor
  · rintro ⟨⟨items, hlist, hitems⟩, items', hlist', hshapes⟩
    rw [requireList_eq_ok] at hlist
    obtain rfl : items = items' := Layer.list.inj (hlist.symm.trans hlist')
    refine ⟨items, hlist, fun part hpart => ?_⟩
    obtain ⟨p, hp⟩ := checkItems_eq_ok hitems part hpart
    exact (h p part).mp ⟨hp, hshapes part hpart⟩
  · rintro ⟨items, hlist, hitems⟩
    refine ⟨⟨items, requireList_eq_ok.mpr hlist, forM_eq_ok.mpr fun e he => ?_⟩, items, hlist, ?_⟩
    · exact ((h _ e.1).mpr (hitems e.1 (List.fst_mem_of_mem_zipIdx he))).1
    · exact fun part hpart => ((h path part).mpr (hitems part hpart)).2

/-- A map is accepted if its keys are, and what is below them is as its fields say. -/
theorem map (names : List String) {f : Form} {fields : List (String × (ρ → Prop))}
    (rest : String → List (Scalar × ρ) → Prop)
    (hcheck : ∀ path v, check path v = .ok () ↔ ∃ entries, view.layer v = .map entries ∧
      (∀ e ∈ entries, isAmong names e.1 = true) ∧ rest path entries)
    (hnames : ∀ n, n ∈ names ↔ n ∈ fields.map Prod.fst)
    (hfields : ∀ path entries, (∀ key ∈ f.required, hasKey key entries = true) →
      (rest path entries ∧ (∀ p ∈ f.properties, Under p.1 entries (HasShape view depth p.2)) ↔
        ∀ p ∈ fields, Under p.1 entries p.2)) :
    Accepts view check (depth + 1) (.form f) (IsMap view f.required fields) := by
  have hknows : ∀ k : Scalar, isAmong names k = true ↔ ∃ p ∈ fields, k = .text p.1 := by
    intro k
    rw [isAmong_eq_true_iff]
    simp only [hnames, List.mem_map, exists_exists_and_eq_and]
  intro path v
  rw [hcheck, hasShape_form]
  constructor
  · rintro ⟨⟨entries, hmap, hknown, hrest⟩, entries', hmap', hrequired, hshapes⟩
    obtain rfl : entries = entries' := Layer.map.inj (hmap.symm.trans hmap')
    exact ⟨entries, hmap, fun e he => (hknows e.1).mp (hknown e he), hrequired,
      (hfields path entries hrequired).mp ⟨hrest, hshapes⟩⟩
  · rintro ⟨entries, hmap, hknown, hrequired, hparts⟩
    obtain ⟨hrest, hshapes⟩ := (hfields path entries hrequired).mpr hparts
    exact ⟨⟨entries, hmap, fun e he => (hknows e.1).mpr (hknown e he), hrest⟩,
      entries, hmap, hrequired, hshapes⟩

end Accepts

/-! ## The parts of a document -/

@[simp] theorem seq_eq_ok {w : Walk} {next : Unit → Walk} :
    (w >>= next) = .ok () ↔ w = .ok () ∧ next () = .ok () := by
  cases w <;> simp

theorem walkConditions_succ_eq_ok {limit : Int} {height : Nat} {path : String} {v : ρ} :
    walkConditions view limit (height + 1) path v = .ok () ↔ ∃ entries, view.layer v = .map entries ∧
      (∀ e ∈ entries, isAmong (Section.keys .conditions) e.1 = true) ∧
      checkUnder "allOf" entries
          (checkList view (walkConditions view limit height) (path ++ "." ++ "allOf")) = .ok () ∧
        checkUnder "anyOf" entries
          (checkList view (walkConditions view limit height) (path ++ "." ++ "anyOf")) = .ok () ∧
        checkUnder "not" entries (walkConditions view limit height (path ++ ".not")) = .ok () := by
  rw [walkConditions, bind_eq_ok]
  simp [requireMap_eq_ok, checkKeys_eq_ok]
  rfl

/-- A condition set is accepted if the walk has as many levels left as the set is high. A listed set is two
shapes further down and the negated one is one shape down, so two depths are enough for each level of the
height. -/
theorem accepts_conditions (view : View ρ) (limit : Int) (height : Nat) {depth : Nat}
    (hdepth : 2 * height + 1 ≤ depth) :
    Accepts view (walkConditions view limit height) depth (.form .conditions)
      (IsConditions view height) := by
  induction height generalizing depth with
  | zero =>
    intro path v
    simp [walkConditions, IsConditions]
  | succ height ih =>
    obtain ⟨depth, rfl⟩ : ∃ d, depth = d + 3 := ⟨depth - 3, by omega⟩
    have hset := @ih (depth + 2) (by omega)
    have hsets := (@ih (depth + 1) (by omega)).list
    refine Accepts.map (Section.keys .conditions) _ (fun _ _ => walkConditions_succ_eq_ok) ?_ ?_
    · simp [Section.keys, conditionKeys]
    · intro path entries _
      simp only [Form.properties, List.forall_mem_cons, List.not_mem_nil, IsEmpty.forall_iff,
        implies_true, and_true, hset.under "not" (path ++ ".not") entries,
        hsets.under "allOf" (path ++ "." ++ "allOf") entries,
        hsets.under "anyOf" (path ++ "." ++ "anyOf") entries, hasShape_text, hasShape_list]
      tauto

section Rules

variable {limit : Int} {depth : Nat} {checkFallback : String → ρ → Walk} {fallback : ρ → Prop}

/-- An insertion is accepted if its fallback is. -/
theorem accepts_insertionWith (hfallback : Accepts view checkFallback depth (.form .insertion) fallback)
    (hdepth : 2 * (limit + 1).toNat + 1 ≤ depth) :
    Accepts view (fun path v => do
        let entries ← requireMap view path v
        checkKeys .insertions path entries
        walkRuleConditions view limit path entries
        checkUnder "fallback" entries (checkFallback path))
      (depth + 1) (.form .insertion)
      (IsMap view ["content"] (insertionFields view (limit + 1).toNat fallback)) := by
  have hconditions := accepts_conditions view limit (limit + 1).toNat hdepth
  obtain ⟨depth, rfl⟩ : ∃ d, depth = d + 1 := ⟨depth - 1, by omega⟩
  refine Accepts.map (Section.keys .insertions) (fun path entries =>
    walkRuleConditions view limit path entries = .ok () ∧
      checkUnder "fallback" entries (checkFallback path) = .ok ()) ?_ ?_ ?_
  · intro path v
    rw [bind_eq_ok]
    simp only [requireMap_eq_ok, seq_eq_ok, checkKeys_eq_ok]
  · simp [Section.keys, insertionKeys, insertionFields]
  · intro path entries _
    simp only [Form.properties, insertionFields, List.forall_mem_cons, List.not_mem_nil,
      IsEmpty.forall_iff, implies_true, and_true, hasShape_text,
      hconditions.under "conditions" (path ++ ".conditions") entries, walkRuleConditions,
      hfallback.under "fallback" path entries]
    tauto

/-- A replacement is accepted if its fallback is. The walk asks for the two keys itself, and a map with the
shape of the form has them. -/
theorem accepts_replacementWith
    (hfallback : Accepts view checkFallback depth (.form .replacement) fallback)
    (hdepth : 2 * (limit + 1).toNat + 1 ≤ depth) :
    Accepts view (fun path v => do
        let entries ← requireMap view path v
        requireKey path "find" entries
        requireKey path "replace" entries
        checkKeys .replacements path entries
        walkRuleConditions view limit path entries
        checkUnder "fallback" entries (checkFallback path))
      (depth + 1) (.form .replacement)
      (IsMap view ["find", "replace"] (replacementFields view (limit + 1).toNat fallback)) := by
  have hconditions := accepts_conditions view limit (limit + 1).toNat hdepth
  obtain ⟨depth, rfl⟩ : ∃ d, depth = d + 1 := ⟨depth - 1, by omega⟩
  refine Accepts.map (Section.keys .replacements) (fun path entries =>
    (hasKey "find" entries = true ∧ hasKey "replace" entries = true) ∧
      walkRuleConditions view limit path entries = .ok () ∧
      checkUnder "fallback" entries (checkFallback path) = .ok ()) ?_ ?_ ?_
  · intro path v
    rw [bind_eq_ok]
    simp only [requireMap_eq_ok, seq_eq_ok, requireKey_eq_ok, checkKeys_eq_ok]
    refine exists_congr fun entries => ?_
    tauto
  · simp [Section.keys, replacementKeys, replacementFields]
  · intro path entries hrequired
    simp only [Form.properties, replacementFields, List.forall_mem_cons, List.not_mem_nil,
      IsEmpty.forall_iff, implies_true, and_true, hasShape_text, hasShape_kind,
      hconditions.under "conditions" (path ++ ".conditions") entries, walkRuleConditions,
      hfallback.under "fallback" path entries]
    have hkeys := hrequired "find" (by simp [Form.required])
    have hkeys' := hrequired "replace" (by simp [Form.required])
    tauto

/-- No fallback is accepted where a chain has to end. -/
theorem accepts_none {shape : Shape} (cause : String → ConfigurationCause) :
    Accepts view (fun path _ => .error (cause path)) depth shape fun _ => False := by
  intro path v
  simp

theorem accepts_insertion (view : View ρ) (limit : Int) (fallbacks : Nat)
    (hdepth : fallbacks + 2 * (limit + 1).toNat + 2 ≤ depth) :
    Accepts view (walkInsertion view limit fallbacks) depth (.form .insertion)
      (IsInsertion view (limit + 1).toNat fallbacks) := by
  induction fallbacks generalizing depth with
  | zero =>
    obtain ⟨depth, rfl⟩ : ∃ d, depth = d + 1 := ⟨depth - 1, by omega⟩
    intro path v
    rw [walkInsertion.eq_def]
    exact accepts_insertionWith (accepts_none (.longChain · limit)) (by omega) path v
  | succ fallbacks ih =>
    obtain ⟨depth, rfl⟩ : ∃ d, depth = d + 1 := ⟨depth - 1, by omega⟩
    intro path v
    rw [walkInsertion.eq_def]
    exact accepts_insertionWith (fun path v => ih (by omega) (fallbackPath path) v) (by omega) path v

theorem accepts_replacement (view : View ρ) (limit : Int) (fallbacks : Nat)
    (hdepth : fallbacks + 2 * (limit + 1).toNat + 2 ≤ depth) :
    Accepts view (walkReplacement view limit fallbacks) depth (.form .replacement)
      (IsReplacement view (limit + 1).toNat fallbacks) := by
  induction fallbacks generalizing depth with
  | zero =>
    obtain ⟨depth, rfl⟩ : ∃ d, depth = d + 1 := ⟨depth - 1, by omega⟩
    intro path v
    rw [walkReplacement.eq_def]
    exact accepts_replacementWith (accepts_none (.longChain · limit)) (by omega) path v
  | succ fallbacks ih =>
    obtain ⟨depth, rfl⟩ : ∃ d, depth = d + 1 := ⟨depth - 1, by omega⟩
    intro path v
    rw [walkReplacement.eq_def]
    exact accepts_replacementWith (fun path v => ih (by omega) (fallbackPath path) v) (by omega) path v

theorem accepts_variants (view : View ρ) (depth : Nat) : Accepts view
    (fun path v => do checkKeys .variants path (← requireMap view path v)) (depth + 3)
    (.form .variants) (IsVariants view) := by
  refine Accepts.map (Section.keys .variants) (fun _ _ => True) ?_ ?_ ?_
  · intro path v
    rw [bind_eq_ok]
    simp only [requireMap_eq_ok, checkKeys_eq_ok, and_true]
  · simp [Section.keys, variantKeys]
  · intro path entries _
    simp only [Form.properties, List.forall_mem_cons, List.not_mem_nil, IsEmpty.forall_iff,
      implies_true, and_true, true_and, hasShape_text, hasShape_list]

theorem accepts_smartReplacement (view : View ρ) (limit : Int)
    (hdepth : max (2 * (limit + 1).toNat + 2) 4 ≤ depth) :
    Accepts view (walkSmartReplacement view limit) depth (.form .smartReplacement)
      (IsSmartReplacement view (limit + 1).toNat) := by
  obtain ⟨depth, rfl⟩ : ∃ d, depth = d + 4 := ⟨depth - 4, by omega⟩
  have hconditions : Accepts view _ (depth + 3) _ _ :=
    accepts_conditions view limit (limit + 1).toNat (by omega)
  have hvariants := accepts_variants view depth
  refine Accepts.map (Section.keys .smartReplacements) (fun path entries =>
    checkUnder "findPattern" entries (fun v => do
      checkKeys .variants (path ++ ".findPattern") (← requireMap view (path ++ ".findPattern") v)) =
        .ok () ∧
      walkRuleConditions view limit path entries = .ok ()) ?_ ?_ ?_
  · intro path v
    rw [walkSmartReplacement, bind_eq_ok]
    simp only [requireMap_eq_ok, seq_eq_ok, checkKeys_eq_ok]
  · simp [Section.keys, smartReplacementKeys]
  · intro path entries _
    simp only [Form.properties, List.forall_mem_cons, List.not_mem_nil, IsEmpty.forall_iff,
      implies_true, and_true, hasShape_text, hasShape_list, walkRuleConditions,
      hconditions.under "conditions" (path ++ ".conditions") entries,
      hvariants.under "findPattern" (path ++ ".findPattern") entries]
    tauto

theorem accepts_location (view : View ρ) (depth : Nat) :
    Accepts view (walkLocation view) (depth + 2) (.form .location) (IsLocation view) := by
  refine Accepts.map (Section.keys .location) (fun _ _ => True) ?_ ?_ ?_
  · intro path v
    rw [walkLocation, bind_eq_ok]
    simp only [requireMap_eq_ok, checkKeys_eq_ok, and_true]
  · simp [Section.keys, locationKeys]
  · intro path entries _
    simp only [Form.properties, List.forall_mem_cons, List.not_mem_nil, IsEmpty.forall_iff,
      implies_true, and_true, true_and, hasShape_text]

theorem accepts_insertionPoint (view : View ρ) (depth : Nat) :
    Accepts view (walkInsertionPoint view) (depth + 4) (.form .insertionPoint) (IsInsertionPoint view) := by
  have hlocations := (accepts_location view depth).list
  refine Accepts.map (Section.keys .insertionPoint) (fun path entries =>
    checkUnder "patterns" entries (checkList view (walkLocation view) (path ++ ".patterns")) =
      .ok ()) ?_ ?_ ?_
  · intro path v
    rw [walkInsertionPoint, bind_eq_ok]
    simp only [requireMap_eq_ok, seq_eq_ok, checkKeys_eq_ok]
    rfl
  · simp [Section.keys, insertionPointKeys]
  · intro path entries _
    simp only [Form.properties, List.forall_mem_cons, List.not_mem_nil, IsEmpty.forall_iff,
      implies_true, and_true, hlocations.under "patterns" (path ++ ".patterns") entries]

theorem accepts_smartInsertion (view : View ρ) (limit : Int)
    (hdepth : max ((limit - 1).toNat + 2 * (limit + 1).toNat + 3) 5 ≤ depth) :
    Accepts view (walkSmartInsertion view limit) depth (.form .smartInsertion)
      (IsSmartInsertion view (limit + 1).toNat (limit - 1).toNat) := by
  obtain ⟨depth, rfl⟩ : ∃ d, depth = d + 5 := ⟨depth - 5, by omega⟩
  have hconditions : Accepts view _ (depth + 4) _ _ :=
    accepts_conditions view limit (limit + 1).toNat (by omega)
  have hpoint := accepts_insertionPoint view depth
  have hfallback : Accepts view _ (depth + 4) _ _ :=
    accepts_insertion view limit (limit - 1).toNat (by omega)
  refine Accepts.map (Section.keys .smartInsertions) (fun path entries =>
    checkUnder "findInsertionPoint" entries (walkInsertionPoint view (path ++ ".findInsertionPoint")) =
        .ok () ∧
      walkRuleConditions view limit path entries = .ok () ∧
      checkUnder "fallback" entries
        (walkInsertion view limit (limit - 1).toNat (fallbackPath path)) = .ok ()) ?_ ?_ ?_
  · intro path v
    rw [walkSmartInsertion, bind_eq_ok]
    simp only [requireMap_eq_ok, seq_eq_ok, checkKeys_eq_ok]
  · simp [Section.keys, smartInsertionKeys]
  · intro path entries _
    simp only [Form.properties, List.forall_mem_cons, List.not_mem_nil, IsEmpty.forall_iff,
      implies_true, and_true, hasShape_text, walkRuleConditions,
      hconditions.under "conditions" (path ++ ".conditions") entries,
      hpoint.under "findInsertionPoint" (path ++ ".findInsertionPoint") entries,
      hfallback.under "fallback" (fallbackPath path) entries]
    tauto

theorem accepts_metadata (view : View ρ) (depth : Nat) :
    Accepts view (fun _ => walkMetadata view) (depth + 2) (.formOrNull .metadata) (IsMetadata view) := by
  have hmap : Accepts view (fun _ v => do checkKeys .metadata "metadata" (← requireMap view "metadata" v))
      (depth + 2) (.form .metadata) (IsMap view [] [
        ("name", IsText view), ("description", IsText view), ("version", IsTextOrNumber view),
        ("author", IsText view)]) := by
    refine Accepts.map (Section.keys .metadata) (fun _ _ => True) ?_ ?_ ?_
    · intro path v
      rw [bind_eq_ok]
      simp only [requireMap_eq_ok, checkKeys_eq_ok, and_true]
    · simp [Section.keys, metadataKeys]
    · intro path entries _
      simp only [Form.properties, List.forall_mem_cons, List.not_mem_nil, IsEmpty.forall_iff,
        implies_true, and_true, true_and, hasShape_text, hasShape_textOrNumber]
  intro path v
  rw [hasShape_formOrNull, IsMetadata, ← hmap path v, hasShape_form]
  by_cases hnull : view.layer v = .scalar .null
  · simp [walkMetadata, hnull]
  · have hwalk : walkMetadata view v =
        requireMap view "metadata" v >>= checkKeys .metadata "metadata" := by
      rw [walkMetadata.eq_def]
      split
      · contradiction
      · rfl
    simp only [hwalk, hnull, false_or]

theorem accepts_partials (view : View ρ) (depth : Nat) :
    Accepts view (fun path v => discard (requireMap view path v)) (depth + 2) .texts (IsTexts view) := by
  intro path v
  rw [hasShape_texts, and_iff_right_iff_imp]
  rintro ⟨entries, hmap, -⟩
  simp only [requireMap_eq_ok.mpr hmap]
  rfl

end Rules

/-! ## Documents -/

/-- The rules under a key are accepted one by one. -/
theorem walkRules_eq {key : String} {check : String → ρ → Walk} {entries : List (Scalar × ρ)} :
    walkRules view key check entries = checkUnder key entries (checkList view check key) := rfl

theorem walk_eq_ok {limit : Int} {root : ρ} : walk view limit root = .ok () ↔
    ∃ entries, view.layer root = .map entries ∧ (∀ e ∈ entries, isAmong rootKeys e.1 = true) ∧
      checkUnder "metadata" entries (walkMetadata view) = .ok () ∧
      checkUnder "conditions" entries (walkConditions view limit (limit + 1).toNat "conditions") =
        .ok () ∧
      walkRules view "insertions" (walkInsertion view limit limit.toNat) entries = .ok () ∧
      walkRules view "replacements" (walkReplacement view limit limit.toNat) entries = .ok () ∧
      walkRules view "smartReplacements" (walkSmartReplacement view limit) entries = .ok () ∧
      walkRules view "smartInsertions" (walkSmartInsertion view limit) entries = .ok () ∧
      checkUnder "partials" entries (fun v => discard (requireMap view "partials" v)) = .ok () := by
  rw [walk]
  split
  · rename_i hnull
    simp [hnull]
  · rename_i entries hmap
    simp only [hmap, Layer.map.injEq, exists_eq_left']
    cases hfind : entries.find? fun e => !isAmong rootKeys e.1 with
    | some e =>
      have hunknown := List.find?_some hfind
      have hmem := List.mem_of_find?_eq_some hfind
      have hnot : ¬ ∀ e ∈ entries, isAmong rootKeys e.1 = true := fun h => by simp [h _ hmem] at hunknown
      simp only [hnot, false_and, iff_false]
      exact fun h => by cases h
    | none =>
      have hknown : ∀ e ∈ entries, isAmong rootKeys e.1 = true := by simpa using hfind
      simp only [seq_eq_ok]
      exact (and_iff_right hknown).symm
  · rename_i hmap
    constructor
    · exact fun h => by simp at h
    · rintro ⟨entries, hentries, -⟩
      exact (hmap entries hentries).elim

theorem accepts_document {limit : Int} :
    Accepts view (fun _ => walk view limit) (shapeDepth limit) (.form .document)
      (IsDocumentWithin view (limit + 1).toNat limit.toNat (limit - 1).toNat) := by
  obtain ⟨depth, hdepth⟩ : ∃ depth, shapeDepth limit = depth + 3 := ⟨3 * limit.toNat + 5, rfl⟩
  have henough : 3 * limit.toNat + 5 = depth := by
    rw [shapeDepth] at hdepth
    omega
  have hmetadata := accepts_metadata view depth
  have hconditions : Accepts view _ (depth + 2) _ _ :=
    accepts_conditions view limit (limit + 1).toNat (by omega)
  have hinsertions : Accepts view _ (depth + 2) _ _ :=
    (accepts_insertion view limit limit.toNat (by omega)).list
  have hreplacements : Accepts view _ (depth + 2) _ _ :=
    (accepts_replacement view limit limit.toNat (by omega)).list
  have hsmartReplacements : Accepts view _ (depth + 2) _ _ :=
    (accepts_smartReplacement view limit (by omega)).list
  have hsmartInsertions : Accepts view _ (depth + 2) _ _ :=
    (accepts_smartInsertion view limit (by omega)).list
  have hpartials := accepts_partials view depth
  rw [hdepth]
  refine Accepts.map rootKeys _ (fun _ _ => walk_eq_ok) ?_ ?_
  · simp [rootKeys]
  · intro path entries _
    simp only [Form.properties, List.forall_mem_cons, List.not_mem_nil, IsEmpty.forall_iff,
      implies_true, and_true, walkRules_eq,
      hmetadata.under "metadata" "" entries,
      hconditions.under "conditions" "conditions" entries,
      hinsertions.under "insertions" "insertions" entries,
      hreplacements.under "replacements" "replacements" entries,
      hsmartReplacements.under "smartReplacements" "smartReplacements" entries,
      hsmartInsertions.under "smartInsertions" "smartInsertions" entries,
      hpartials.under "partials" "partials" entries]
    tauto

/-- For every limit, the check accepts the documents of the grammar. -/
theorem check_eq_ok_iff_isDocumentWithin {limit : Int} {source : String} {root : ρ} :
    check view limit source root = .ok () ↔
      IsDocumentWithin view (limit + 1).toNat limit.toNat (limit - 1).toNat root :=
  check_eq_ok_iff.trans (accepts_document "" root)

/-- **The check accepts exactly the documents of the grammar.** For every limit and every value, finite or
not, the check returns if the value is a document of that limit, and refuses it otherwise. -/
theorem check_eq_ok_iff_isDocument (limit : Nat) (source : String) (root : ρ) :
    check view limit source root = .ok () ↔ IsDocument view limit root := by
  rw [check_eq_ok_iff_isDocumentWithin, IsDocument]
  have hheight : ((limit : Int) + 1).toNat = limit + 1 := by omega
  have hinner : ((limit : Int) - 1).toNat = limit - 1 := by omega
  rw [hheight, hinner, Int.toNat_natCast]

end TemplateRules.Structure
