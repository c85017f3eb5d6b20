import TemplateRules.Proofs.Agreement

/-!
# A pass as a plan

What a pass does to a template is settled before it comes to the template. The context and the document
alone say which rule of every chain has its turn and which edit it makes, with its partials expanded; the
edits are then made one after the other. A pass mixes the two: it looks at the conditions of a rule only
when it comes to the rule, on a text that other rules have changed already. That it returns what the plan
returns says that an edit never decides about a rule behind it.

## Main definitions

* `PrimitiveEdit`: an edit that needs nothing but the text, with `PrimitiveEdit.run`
* `RuleDocument.chains`: the rules of a document as chains of edits under conditions, in their order
* `Context.plan`: the edits whose turn it is

## Main results

* `Pass.find?_eq_of_select`: the rule that is selected is the first one whose conditions hold
* `Engine.apply_eq_foldlM_plan`: applying a document carries out its plan
-/

namespace TemplateRules

/-! ## Plans -/

/-- An edit that needs nothing but the text it is made on. -/
inductive PrimitiveEdit where
  | replaceAll (find replacement : String)
  | replaceMatches (pattern replacement : String)
  | replaceAny (candidates : List String) (replacement : String)
  | replaceAtPoint (point replacement : String)
  | insertAfter (anchor content : String)
  | insertBefore (anchor content : String)
  | insertAtEdge (edge content : String)
  | insertAtPoint (point content : String)
  | insertAtFirst (locations : List PatternLocation) (content : String)
  /-- What a rule without a target or a place comes to. -/
  | impossible
deriving DecidableEq

/-- The text after an edit, unless the edit fails. -/
def PrimitiveEdit.run : PrimitiveEdit → String → Option String
  | .replaceAll find replacement, text => some (Edit.replaceAll text find replacement).value
  | .replaceMatches pattern replacement, text => (Edit.replaceMatches text pattern replacement).result?
  | .replaceAny candidates replacement, text => some (Locator.replaceAny text candidates replacement).value
  | .replaceAtPoint point replacement, text => some (Locator.replaceAtPoint text point replacement).value
  | .insertAfter anchor content, text => some (Edit.insertAfter text anchor content).value
  | .insertBefore anchor content, text => some (Edit.insertBefore text anchor content).value
  | .insertAtEdge edge content, text => (Insertion.atEdge edge text content).result?
  | .insertAtPoint point content, text => some (Locator.insertAtPoint text point content).value
  | .insertAtFirst locations content, text => some (Locator.insertAtFirst text locations content).value
  | .impossible, _ => none

/-- An edit and the conditions under which it is made. -/
structure GuardedEdit where
  conditions : Option ConditionSet
  edit : PrimitiveEdit

section Guarded

variable (partials : Table String)

/-- The edit of a replacement. -/
def Replacement.guarded (r : Replacement) : GuardedEdit :=
  let replacement := Partials.expanded r.replacement partials
  ⟨r.conditions, match r.kind with
    | .literal => .replaceAll r.find replacement
    | .pattern => .replaceMatches r.find replacement⟩

/-- The edit of a smart replacement. -/
def SmartReplacement.guarded (r : SmartReplacement) : GuardedEdit :=
  let replacement := Partials.expanded r.replacement partials
  ⟨r.conditions, match r.candidates, r.point, r.variants with
    | some candidates, _, _ => .replaceAny candidates replacement
    | none, some point, _ => .replaceAtPoint point replacement
    | none, none, some found => .replaceAny found.variants replacement
    | none, none, none => .impossible⟩

/-- The edit of an insertion. -/
def Insertion.guarded (i : Insertion) : GuardedEdit :=
  let content := Partials.expanded i.content partials
  ⟨i.conditions, match i.after, i.before, i.edge with
    | some anchor, _, _ => .insertAfter anchor content
    | none, some anchor, _ => .insertBefore anchor content
    | none, none, some edge => .insertAtEdge edge content
    | none, none, none => .impossible⟩

/-- The edit of a smart insertion. -/
def SmartInsertion.guarded (i : SmartInsertion) : GuardedEdit :=
  let content := Partials.expanded i.content partials
  ⟨i.conditions, match i.point, i.locations with
    | some point, _ => .insertAtPoint point content
    | none, some locations => .insertAtFirst locations content
    | none, none => .impossible⟩

/-- A smart insertion and the insertions that it falls back on. -/
def SmartInsertion.chain (i : SmartInsertion) : List GuardedEdit :=
  i.guarded partials :: i.fallbacks.map (Insertion.guarded partials)

end Guarded

/-- The rules of a document, each with its fallbacks: replacements, smart replacements, insertions and
smart insertions, and in the order of the document among those of one kind. -/
def RuleDocument.chains (d : RuleDocument) : List (List GuardedEdit) :=
  d.replacements.map (fun c => c.rules.map (Replacement.guarded d.partials))
    ++ d.smartReplacements.map (fun r => [r.guarded d.partials])
    ++ d.insertions.map (fun c => c.rules.map (Insertion.guarded d.partials))
    ++ d.smartInsertions.map (SmartInsertion.chain d.partials)

namespace Context

/-- Whether conditions hold in a context, whose snapshot of the template nothing changes. -/
def admits (x : Context) (conditions : Option ConditionSet) : Bool := (x.meets conditions).value

/-- The first edit of a chain whose conditions hold. -/
def selected (x : Context) (chain : List GuardedEdit) : Option PrimitiveEdit :=
  (chain.find? fun g => x.admits g.conditions).map GuardedEdit.edit

/-- The edits whose turn it is, one at most for each chain. -/
def plan (x : Context) (d : RuleDocument) : List PrimitiveEdit := d.chains.filterMap x.selected

/-- The text after the edit of a chain whose turn it is, or as it was if there is none. -/
def runChain (x : Context) (text : String) (chain : List GuardedEdit) : Option String :=
  match x.selected chain with
  | some edit => edit.run text
  | none => some text

end Context

/-! ## Edits -/

namespace Attempt

@[simp] theorem result?_pure {α : Type} (a : α) : (pure a : Attempt α).result? = some a := rfl

@[simp] theorem result?_lift {α : Type} (t : Traced α) :
    result? (ExceptT.lift t) = some t.value := rfl

end Attempt

namespace Pass

variable {p : Pass}

@[simp] theorem result?_expand (content : String) :
    (p.expand content).result? = some (Partials.expanded content p.partials) := rfl

@[simp] theorem result?_holds (conditions : Option ConditionSet) :
    (p.holds conditions).result? = some (p.context.admits conditions) := rfl

@[simp] theorem result?_refuse {α : Type} (cause : CustomizationCause) :
    (p.refuse cause : Attempt α).result? = none := rfl

@[simp] theorem result?_noteRule (level : Level) (text : String) :
    (noteRule level text).result? = some () := rfl

@[simp] theorem result?_noteStep (text : String) : (p.noteStep text).result? = some () := by
  rw [Attempt.result?, outcome_noteStep]
  rfl

end Pass

section Edits

variable (p : Pass) (text : String)

theorem Replacement.result?_edit (r : Replacement) :
    (r.edit p text).result? = (r.guarded p.partials).edit.run text := by
  rw [Replacement.edit, Attempt.result?_bind, Replacement.guarded]
  cases r.kind <;> simp [PrimitiveEdit.run]

theorem SmartReplacement.result?_edit (r : SmartReplacement) :
    (r.edit p text).result? = (r.guarded p.partials).edit.run text := by
  rw [SmartReplacement.edit, Attempt.result?_bind, SmartReplacement.guarded]
  rcases r.candidates with _ | candidates
  · rcases r.point with _ | point
    · rcases r.variants with _ | found <;> simp [PrimitiveEdit.run]
    · simp [PrimitiveEdit.run]
  · simp [PrimitiveEdit.run]

theorem Insertion.result?_edit (i : Insertion) :
    (i.edit p text).result? = (i.guarded p.partials).edit.run text := by
  rw [Insertion.edit, Attempt.result?_bind, Insertion.guarded]
  rcases i.after with _ | anchor
  · rcases i.before with _ | anchor
    · rcases i.edge with _ | edge <;> simp [PrimitiveEdit.run]
    · simp [PrimitiveEdit.run]
  · simp [PrimitiveEdit.run]

theorem SmartInsertion.result?_edit (i : SmartInsertion) :
    (i.edit p text).result? = (i.guarded p.partials).edit.run text := by
  rw [SmartInsertion.edit, Attempt.result?_bind, SmartInsertion.guarded]
  rcases i.point with _ | point
  · rcases i.locations with _ | locations <;> simp [PrimitiveEdit.run]
  · simp [PrimitiveEdit.run]

end Edits

/-! ## Selection -/

namespace Pass

variable {p : Pass} {text next : String}

/-- The rule that is selected is the first one whose conditions hold. Rules beyond the limit make no
difference, because a pass that comes to one of them fails. -/
theorem find?_eq_of_select {α : Type} {kind : String} {conditions : α → Option ConditionSet} {depth : Nat}
    {rules : List α} {selected : Option α}
    (h : (p.select kind conditions depth rules).result? = some selected) :
    rules.find? (fun rule => p.context.admits (conditions rule)) = selected := by
  have hselect : (p.select kind conditions depth rules).outcome = .ok selected := Attempt.result?_eq_some.mp h
  rw [outcome_select] at hselect
  split at hselect
  · simp at hselect
  · exact Except.ok.inj hselect

end Pass

/-! ## Chains -/

namespace Context

variable {x : Context}

/-- The edit of a chain is that of the first rule whose conditions hold. -/
theorem selected_map {α : Type} {guarded : α → GuardedEdit} {conditions : α → Option ConditionSet}
    (hconditions : ∀ rule, (guarded rule).conditions = conditions rule) (rules : List α) :
    x.selected (rules.map guarded) =
      (rules.find? fun rule => x.admits (conditions rule)).map fun rule => (guarded rule).edit := by
  rw [selected, List.find?_map, Option.map_map]
  simp only [Function.comp_def, hconditions]

theorem runChain_cons_of_admits {g : GuardedEdit} {chain : List GuardedEdit}
    (h : x.admits g.conditions = true) (text : String) :
    x.runChain text (g :: chain) = g.edit.run text := by
  rw [runChain, selected, List.find?_cons, h]
  rfl

theorem runChain_cons_of_not_admits {g : GuardedEdit} {chain : List GuardedEdit}
    (h : x.admits g.conditions = false) (text : String) :
    x.runChain text (g :: chain) = x.runChain text chain := by
  rw [runChain, selected, List.find?_cons, h]
  rfl

/-- The plan of a document is carried out chain by chain. -/
theorem foldlM_run_filterMap (chains : List (List GuardedEdit)) (text : String) :
    (chains.filterMap x.selected).foldlM (fun text edit => edit.run text) text =
      chains.foldlM x.runChain text := by
  induction chains generalizing text with
  | nil => rfl
  | cons chain chains ih =>
    rw [List.foldlM_cons, runChain, List.filterMap_cons]
    cases x.selected chain with
    | none => exact ih text
    | some edit =>
      rw [List.foldlM_cons]
      exact Option.bind_congr fun next _ => ih next

end Context

namespace Pass

variable {p : Pass} {text next : String}

section Chains

variable {α : Type} {guarded : α → GuardedEdit} {conditions : α → Option ConditionSet}
  {edit : α → String → Attempt String}

/-- To select a rule and to carry it out is to make the edit of the chain. The rule that the pass has selected
on its way is the one that the plan has from the start. -/
theorem runChain_of_select (hconditions : ∀ rule, (guarded rule).conditions = conditions rule)
    (hedit : ∀ rule text, (edit rule text).result? = (guarded rule).edit.run text) {kind : String}
    {depth : Nat} {rules : List α}
    (h : (p.select kind conditions depth rules >>= fun s => carryOut edit s text).result? = some next) :
    p.context.runChain text (rules.map guarded) = some next := by
  rw [Attempt.result?_bind] at h
  obtain ⟨selected, hselect, hcarry⟩ := Option.bind_eq_some_iff.mp h
  rw [Context.runChain, Context.selected_map hconditions, find?_eq_of_select hselect]
  cases selected with
  | none => exact hcarry
  | some rule => exact (hedit rule text).symm.trans hcarry

/-- Rules that are applied one after the other make the edits of their chains one after the other. -/
theorem foldlM_runChain_of_applyAll {apply : Nat → α → String → Attempt String}
    {chain : α → List GuardedEdit}
    (happly : ∀ position rule text next, (apply position rule text).result? = some next →
      p.context.runChain text (chain rule) = some next) {rules : List α} {position : Nat}
    (h : (applyAll apply position rules text).result? = some next) :
    (rules.map chain).foldlM p.context.runChain text = some next := by
  induction rules generalizing position text with
  | nil => exact h
  | cons rule rules ih =>
    rw [applyAll, Attempt.result?_bind] at h
    obtain ⟨left, hleft, hrest⟩ := Option.bind_eq_some_iff.mp h
    rw [List.map_cons, List.foldlM_cons, happly position rule text left hleft]
    exact ih hrest

end Chains

theorem runChain_of_replacementStep {position : Nat} {c : Chain Replacement}
    (h : (p.replacementStep position c text).result? = some next) :
    p.context.runChain text (c.rules.map (Replacement.guarded p.partials)) = some next := by
  rw [replacementStep, Attempt.result?_bind, result?_noteStep] at h
  exact runChain_of_select (fun _ => rfl) (fun r text => r.result?_edit p text) h

theorem runChain_of_applySmartReplacement {r : SmartReplacement}
    (h : (p.applySmartReplacement r text).result? = some next) :
    p.context.runChain text [r.guarded p.partials] = some next := by
  rw [applySmartReplacement, Attempt.result?_bind, result?_holds, Option.bind_some] at h
  cases hadmits : p.context.admits r.conditions with
  | true =>
    rw [hadmits, if_pos rfl, r.result?_edit] at h
    rwa [Context.runChain_cons_of_admits hadmits]
  | false =>
    rw [hadmits, if_neg Bool.false_ne_true, Attempt.result?_bind] at h
    rw [Context.runChain_cons_of_not_admits hadmits]
    exact h

theorem runChain_of_insertionStep {position : Nat} {c : Chain Insertion}
    (h : (p.insertionStep position c text).result? = some next) :
    p.context.runChain text (c.rules.map (Insertion.guarded p.partials)) = some next := by
  rw [insertionStep, Attempt.result?_bind] at h
  obtain ⟨result, hresult, hnote⟩ := Option.bind_eq_some_iff.mp h
  rw [Attempt.result?_bind, result?_noteStep] at hnote
  obtain rfl : result = next := Option.some.inj hnote
  exact runChain_of_select (fun _ => rfl) (fun i text => i.result?_edit p text) hresult

theorem runChain_of_applySmartInsertion {i : SmartInsertion}
    (h : (p.applySmartInsertion i text).result? = some next) :
    p.context.runChain text (i.chain p.partials) = some next := by
  rw [applySmartInsertion, Attempt.result?_bind, result?_holds, Option.bind_some] at h
  rw [SmartInsertion.chain]
  cases hadmits : p.context.admits i.conditions with
  | true =>
    rw [hadmits, if_pos rfl, i.result?_edit] at h
    rwa [Context.runChain_cons_of_admits hadmits]
  | false =>
    rw [hadmits, if_neg Bool.false_ne_true] at h
    rw [Context.runChain_cons_of_not_admits hadmits]
    split at h
    · rename_i hempty
      rw [List.isEmpty_iff.mp hempty]
      rw [Attempt.result?_bind] at h
      exact h
    · rw [Attempt.result?_bind] at h
      exact runChain_of_select (fun _ => rfl) (fun f text => f.result?_edit p text) h

/-! ## The pass -/

/-- A pass that returns has made the edits of the plan, or none if the conditions of the document do not
hold. -/
theorem foldlM_plan_of_applyDocument {d : RuleDocument} {template : String}
    (hpartials : p.partials = d.partials) (h : (p.applyDocument d template).result? = some text) :
    (p.context.admits d.conditions = false → text = template) ∧
      (p.context.admits d.conditions = true →
        (p.context.plan d).foldlM (fun text edit => edit.run text) template = some text) := by
  have hconditions : p.meets d.conditions = p.context.admits d.conditions := rfl
  obtain ⟨hnot, rfl⟩ | ⟨hadmits, text₁, text₂, text₃, h₁, h₂, h₃, h₄⟩ :=
    applyDocument_eq_ok_iff.mp (Attempt.result?_eq_some.mp h)
  · rw [← hconditions, hnot]
    exact ⟨fun _ => rfl, by simp⟩
  · rw [← hconditions, hadmits]
    refine ⟨by simp, fun _ => ?_⟩
    have hreplacements := foldlM_runChain_of_applyAll
      (fun _ c _ _ h => runChain_of_replacementStep (c := c) h) (Attempt.result?_eq_some.mpr h₁)
    have hsmartReplacements := foldlM_runChain_of_applyAll
      (fun _ r _ _ h => runChain_of_applySmartReplacement (r := r) h) (Attempt.result?_eq_some.mpr h₂)
    have hinsertions := foldlM_runChain_of_applyAll
      (fun _ c _ _ h => runChain_of_insertionStep (c := c) h) (Attempt.result?_eq_some.mpr h₃)
    have hsmartInsertions := foldlM_runChain_of_applyAll
      (fun _ i _ _ h => runChain_of_applySmartInsertion (i := i) h) (Attempt.result?_eq_some.mpr h₄)
    rw [hpartials] at hreplacements hsmartReplacements hinsertions hsmartInsertions
    rw [Context.plan, Context.foldlM_run_filterMap, RuleDocument.chains, List.foldlM_append,
      List.foldlM_append, List.foldlM_append, hreplacements]
    simp only [Option.bind_eq_bind, Option.bind_some, hsmartReplacements, hinsertions, hsmartInsertions]

end Pass

namespace Engine

/-- **Applying a document carries out its plan.** Whatever is returned for a template, a document and a
context where nothing is kept yet is the template itself if the conditions of the document do not hold, and
else the template after the edits of the plan, which the context and the document make without it. -/
theorem apply_eq_foldlM_plan {limit : Int} {template : String} {d : RuleDocument} {x : Context}
    {given : Option String} {text : String} {kept : Results}
    (h : (apply limit .empty template (some d) x given).outcome = .ok (text, kept)) :
    (x.admits d.conditions = false → text = template) ∧
      (x.admits d.conditions = true →
        (x.plan d).foldlM (fun text edit => edit.run text) template = some text) := by
  rw [outcome_apply_some, Cache.get?_empty] at h
  obtain ⟨text', hcompute, hput⟩ := map_eq_ok.mp h
  have htext : text' = text := by simpa [Cache.put] using congrArg Prod.fst hput
  subst htext
  have hresult := Attempt.result?_eq_some.mpr hcompute
  rw [compute, result?_run] at hresult
  exact Pass.foldlM_plan_of_applyDocument rfl hresult

/-- That the template contains a text. -/
def containing (probe : String) : ConditionSet :=
  .mk ⟨none, some probe, none, none, none, none, none, none, none, none, none⟩ none none none

/-- A document whose replacement is a fallback and takes away what its insertion asks for. -/
def removesLetter : RuleDocument where
  metadata := none
  conditions := none
  insertions := [⟨⟨some "x", none, none, "!", some (containing "a")⟩, []⟩]
  replacements :=
    [⟨⟨"b", "c", .literal, some (containing "z")⟩, [⟨"a", "x", .literal, some (containing "a")⟩]⟩]
  smartReplacements := []
  smartInsertions := []
  partials := []

/-- A context whose snapshot has the letter. -/
def lettersContext : Context := ⟨none, some "ab", [], [], .markers⟩

/-- The insertion is made although the letter is gone by then. -/
theorem apply_removesLetter : ∃ kept,
    (apply 8 .empty "ab" (some removesLetter) lettersContext none).outcome = .ok ("x!b", kept) ∧
      (lettersContext.admits removesLetter.conditions = false → "x!b" = "ab") ∧
      (lettersContext.admits removesLetter.conditions = true →
        (lettersContext.plan removesLetter).foldlM (fun text edit => edit.run text) "ab" =
          some "x!b") := by
  obtain ⟨kept, h⟩ : ∃ kept, (apply 8 .empty "ab" (some removesLetter) lettersContext none).outcome =
      .ok ("x!b", kept) := ⟨_, rfl⟩
  exact ⟨kept, h, apply_eq_foldlM_plan h⟩

end Engine

end TemplateRules
