import TemplateRules.Engine
import TemplateRules.Proofs.Outcome

/-!
# Outcomes of the engine

What the engine returns for a document, with the cache that it leaves: the result that is kept under
the key, or else the result of a pass, which is then kept. The engine hides every defect of a pass
behind a failure to apply the document.

## Main results

* `Engine.outcome_apply_some`, `Engine.outcome_apply_empty`: the outcome of applying a document
* `Engine.outcome_apply_ne_defect`: applying a document never ends in a defect
-/

namespace TemplateRules.Engine

variable {limit : Int} {kept : Results} {template : String} {d : RuleDocument} {x : Context}
  {given : Option String}

@[simp] theorem outcome_apply_none :
    (apply limit kept template none x given).outcome = .ok (template, kept) := rfl

theorem outcome_apply_some :
    (apply limit kept template (some d) x given).outcome =
      match kept.get? (x.resultKey template d) with
      | some result => .ok (result, kept)
      | none => (compute limit template d x (x.templateName given)).outcome.map
          (kept.put (x.resultKey template d)) := by
  simp only [apply]
  cases kept.get? (x.resultKey template d) with
  | some result => rfl
  | none =>
    simp only [Attempt.outcome_bind, Attempt.outcome_pure]
    cases (compute limit template d x (x.templateName given)).outcome <;> rfl

/-- With nothing kept the result is computed, and then it is the only one that is kept. -/
theorem outcome_apply_empty :
    (apply limit .empty template (some d) x given).outcome =
      (compute limit template d x (x.templateName given)).outcome.map fun text =>
        (text, ⟨[(x.resultKey template d, text)]⟩) := by
  rw [outcome_apply_some, Cache.get?_empty]
  rfl

theorem outcome_run (p : Pass) :
    (run p d template).outcome = match (p.applyDocument d template).outcome with
      | .ok text => .ok text
      | .error (.defect defect) => .error (.customization ⟨p.template, .unexpected defect⟩)
      | .error failure => .error failure := by
  rw [run, Attempt.outcome_tryCatch]
  rcases (p.applyDocument d template).outcome with failure | text
  · cases failure <;> rfl
  · rfl

/-- The engine fails as the pass does, but for the defects that it hides. -/
theorem run_eq_error {p : Pass} {f : Failure} (h : (run p d template).outcome = .error f) :
    (∃ defect, f = .customization ⟨p.template, .unexpected defect⟩) ∨
      (p.applyDocument d template).outcome = .error f := by
  rw [outcome_run] at h
  split at h
  · simp at h
  · exact .inl ⟨_, (Except.error.inj h).symm⟩
  · rename_i hpass
    obtain rfl := Except.error.inj h
    exact .inr hpass

/-- Applying a document that is not kept yet returns a text if the pass does. -/
theorem exists_outcome_apply_empty :
    (∃ result kept, (apply limit .empty template (some d) x given).outcome = .ok (result, kept)) ↔
      ∃ result, (Pass.applyDocument ⟨x.templateName given, limit, x, d.partials⟩ d template).outcome =
        .ok result := by
  rw [outcome_apply_some, Cache.get?_empty, compute, outcome_run]
  cases h : (Pass.applyDocument ⟨x.templateName given, limit, x, d.partials⟩ d template).outcome with
  | ok text => exact ⟨fun _ => ⟨text, rfl⟩, fun _ => ⟨_, _, rfl⟩⟩
  | error e => cases e <;> simp

theorem outcome_run_ne_defect (p : Pass) (defect : Defect) :
    (run p d template).outcome ≠ .error (.defect defect) := by
  rw [outcome_run]
  split <;> simp_all

/-- Applying a document never ends in a defect. -/
theorem outcome_apply_ne_defect (document : Option RuleDocument) (defect : Defect) :
    (apply limit kept template document x given).outcome ≠ .error (.defect defect) := by
  cases document with
  | none => simp
  | some d =>
    rw [outcome_apply_some]
    split
    · simp
    · rw [ne_eq, map_eq_error]
      exact outcome_run_ne_defect _ defect

end TemplateRules.Engine
