import TemplateRules.Proofs.EngineOutcome
import TemplateRules.Proofs.PassFailures

/-!
# Names in failures

A document is applied to many templates, so a failure has to say which of them it is about: its details hold the
name of the template, and its message begins with it. All failures of a pass do, at every level of a chain and
also where a defect is hidden behind a failure, with one exception. A smart replacement without a target is
refused without the name. An insertion without an anchor and a smart insertion without a place are refused with
it.

## Main definitions

* `CustomizationError.Names`: an error says which template it is about
* `Context.Named`: the name of a template

## Main results

* `CustomizationError.names_iff`: an error names its template unless it is about a missing target
* `Engine.failures_name_template_iff`: when all failures of the engine name their template
-/

namespace TemplateRules

/-- An error says, in its details and at the beginning of its message, which template it is about. -/
def CustomizationError.Names (e : CustomizationError) (name : String) : Prop :=
  e.details.lookup "template" = some (.text name) ∧
    ∃ rest, e.message = "Template '" ++ name ++ "'" ++ rest

theorem exists_template_append (name text : String) :
    ∃ rest, "Template '" ++ name ++ "': " ++ text = "Template '" ++ name ++ "'" ++ rest := by
  have hcolon : "': " = "'" ++ ": " := rfl
  exact ⟨": " ++ text, by simp only [hcolon, String.append_assoc]⟩

/-- An error names its template unless it is about a smart replacement without a target. -/
theorem CustomizationError.names_iff {e : CustomizationError} :
    e.Names e.template ↔ e.cause ≠ .noTarget := by
  obtain ⟨name, cause⟩ := e
  cases cause with
  | noTarget => simp [Names, details]
  | longChain limit depth => exact iff_of_true ⟨rfl, exists_template_append name _⟩ (by simp)
  | noAnchor => exact iff_of_true ⟨rfl, exists_template_append name _⟩ (by simp)
  | noPlace => exact iff_of_true ⟨rfl, exists_template_append name _⟩ (by simp)
  | unexpected defect =>
    refine iff_of_true ⟨rfl, ?_⟩ (by simp)
    obtain ⟨rest, hrest⟩ := exists_template_append name ("customization failed: " ++ defect.message)
    exact ⟨rest, by rw [← hrest, ← String.append_assoc]; rfl⟩

/-! ## The name of a template -/

/-- The name of a template: the given one, or the property `templateName` if no name or an empty one is given, or
"unknown template" if that is not set or empty as well. -/
inductive Context.Named (x : Context) : Option String → String → Prop where
  | given {name : String} (hname : name ≠ "") : Named x (some name) name
  | property {given : Option String} {name : String} (hgiven : given = none ∨ given = some "")
    (hproperty : x.propertyValue? "templateName" = some name) (hname : name ≠ "") : Named x given name
  | unknown {given : Option String} (hgiven : given = none ∨ given = some "")
    (hproperty : x.propertyValue? "templateName" = none ∨ x.propertyValue? "templateName" = some "") :
    Named x given "unknown template"

/-- Only a name that is missing or empty does not count. -/
theorem Context.filter_name_eq_none {s : Option String} :
    s.filter (fun s => !s.isEmpty) = none ↔ s = none ∨ s = some "" := by
  cases s <;> simp

theorem Context.filter_name {name : String} (hname : name ≠ "") :
    (some name).filter (fun s => !s.isEmpty) = some name := by
  simp [Option.filter_eq_some_iff, hname]

theorem Context.named_iff {x : Context} {given : Option String} {name : String} :
    x.Named given name ↔ name = x.templateName given := by
  constructor
  · rintro (hname | ⟨hgiven, hproperty, hname⟩ | ⟨hgiven, hproperty⟩)
    · simp only [templateName, filter_name hname, Option.some_or, Option.getD_some]
    · simp only [templateName, filter_name_eq_none.mpr hgiven, hproperty, filter_name hname,
        Option.none_or, Option.getD_some]
    · simp only [templateName, filter_name_eq_none.mpr hgiven, filter_name_eq_none.mpr hproperty,
        Option.none_or, Option.getD_none, unknownTemplate]
  · rintro rfl
    cases hgiven : given.filter fun s => !s.isEmpty with
    | some name =>
      have htemplate : x.templateName given = name := by simp [templateName, hgiven]
      obtain ⟨rfl, hname⟩ := Option.filter_eq_some_iff.mp hgiven
      rw [htemplate]
      exact .given (by simpa using hname)
    | none =>
      cases hproperty : (x.propertyValue? "templateName").filter fun s => !s.isEmpty with
      | some name =>
        have htemplate : x.templateName given = name := by simp [templateName, hgiven, hproperty]
        obtain ⟨hset, hname⟩ := Option.filter_eq_some_iff.mp hproperty
        rw [htemplate]
        exact .property (filter_name_eq_none.mp hgiven) hset (by simpa using hname)
      | none =>
        have htemplate : x.templateName given = unknownTemplate := by
          simp [templateName, hgiven, hproperty]
        rw [htemplate]
        exact .unknown (filter_name_eq_none.mp hgiven) (filter_name_eq_none.mp hproperty)

/-! ## Failures of a pass -/

namespace Pass

variable {p : Pass} {d : RuleDocument} {template : String}

/-- What a pass refuses it refuses for its own template; a target is missing only where the pass comes to a rule
without one. -/
theorem FailsWith.template_eq {e : CustomizationError} (h : p.FailsWith d template (.customization e)) :
    e.template = p.template ∧ (e.cause = .noTarget → p.LacksTarget d template) := by
  cases h with
  | edit hf => exact absurd rfl (hf e)
  | overrun => simp
  | noTarget h => exact ⟨rfl, fun _ => h⟩
  | noAnchor => simp
  | noPlace => simp

end Pass

namespace Engine

variable {p : Pass} {d : RuleDocument} {template : String}

/-- What the engine refuses is what the pass refuses, or a defect of the pass under the name of its template. -/
theorem run_eq_customization {e : CustomizationError}
    (h : (run p d template).outcome = .error (.customization e)) :
    e.template = p.template ∧ (e.cause = .noTarget → p.LacksTarget d template) := by
  rcases run_eq_error h with ⟨defect, hdefect⟩ | hpass
  · obtain rfl := Failure.customization.inj hdefect
    simp
  · exact (Pass.applyDocument_failure hpass).2.template_eq

theorem run_of_lacksTarget (h : p.LacksTarget d template) :
    (run p d template).outcome = .error (.customization ⟨p.template, .noTarget⟩) := by
  rw [outcome_run, Pass.applyDocument_of_lacksTarget h]

/-- **Failures name their template, unless a target is missing.** For every document, whether or not it has been
validated, the name of the template is the given one, or else the property, or else that of unknown templates; and
all errors about rules that are refused hold that name in their details and begin with it, exactly if it is not the
case that no result is kept and the pass comes to a smart replacement without a target. -/
theorem failures_name_template_iff (limit : Int) (kept : Results) (template : String) (d : RuleDocument)
    (x : Context) (given : Option String) :
    (∀ name, x.Named given name ↔ name = x.templateName given) ∧
      ((∀ e, (apply limit kept template (some d) x given).outcome = .error (.customization e) →
          e.Names (x.templateName given)) ↔
        ¬ (kept.get? (x.resultKey template d) = none ∧
          Pass.LacksTarget ⟨x.templateName given, limit, x, d.partials⟩ d template)) := by
  refine ⟨fun name => Context.named_iff, ?_⟩
  rw [outcome_apply_some]
  cases kept.get? (x.resultKey template d) with
  | some result => simp
  | none =>
    simp only [map_eq_error, true_and]
    constructor
    · intro hnames hlacks
      have hnames := hnames _ (run_of_lacksTarget hlacks)
      exact CustomizationError.names_iff.mp hnames rfl
    · intro hlacks e he
      obtain ⟨htemplate, htarget⟩ := run_eq_customization he
      rw [show x.templateName given = e.template from htemplate.symm, CustomizationError.names_iff]
      exact fun hcause => hlacks (htarget hcause)

/-- A document whose smart replacement says neither what to look for nor where. -/
def untargeted : RuleDocument where
  metadata := none
  conditions := none
  insertions := []
  replacements := []
  smartReplacements := [⟨none, none, none, "b", none⟩]
  smartInsertions := []
  partials := []

/-- The error about a missing target does not say which template it is about. -/
theorem apply_untargeted_unnamed :
    ∃ e, (apply 8 .empty "a" (some untargeted) ⟨none, some "a", [], [], .markers⟩ none).outcome =
        .error (.customization e) ∧
      Context.templateName ⟨none, some "a", [], [], .markers⟩ none = "unknown template" ∧
      ¬ e.Names "unknown template" :=
  ⟨⟨"unknown template", .noTarget⟩, rfl, rfl, CustomizationError.names_iff.not.mpr (by simp)⟩

end Engine

end TemplateRules
