import TemplateRules.Proofs.EngineOutcome
import TemplateRules.Proofs.PassOutcome

/-!
# Validation and application

A document that has been read is meant to be applied without failure. Validation looks at every rule as
it is written, and application at the rules with their partials expanded. The two agree on all rules
but one kind: a partial may bring a reference into the replacement for the matches of a pattern that has
no such group. Application fails for these replacements, when their pattern occurs, and for no others.

## Main results

* `Engine.apply_returns_iff`: when applying a document that has been read returns a text
* `Engine.apply_returns_of_expanded`: partials that change no replacement of a pattern do no harm
-/

namespace TemplateRules.Engine

theorem apply_returns_iff_of_wellFormed {limit : Int} {d : RuleDocument} (hlimit : 0 ≤ limit)
    (hd : d.WellFormed limit.toNat) (template : String) (x : Context) (given : Option String) :
    (∃ result kept, (apply limit .empty template (some d) x given).outcome = .ok (result, kept)) ↔
      ¬ Pass.Breaks ⟨x.templateName given, limit, x, d.partials⟩ d template := by
  have hpass : (∃ e, (Pass.applyDocument ⟨x.templateName given, limit, x, d.partials⟩ d
      template).outcome = .error e) ↔
        Pass.Breaks ⟨x.templateName given, limit, x, d.partials⟩ d template :=
    Pass.applyDocument_eq_error_iff hlimit hd
  rw [exists_outcome_apply_empty, ← hpass]
  cases (Pass.applyDocument ⟨x.templateName given, limit, x, d.partials⟩ d template).outcome <;> simp

/-- Partials that change no replacement for the matches of a pattern do no harm. -/
theorem apply_returns_of_expanded {limit : Int} {d : RuleDocument} (hlimit : 0 ≤ limit)
    (hd : d.WellFormed limit.toNat)
    (hexpanded : ∀ c ∈ d.replacements, ∀ r ∈ c.rules, r.kind = .pattern →
      Partials.expanded r.replacement d.partials = r.replacement)
    (template : String) (x : Context) (given : Option String) :
    ∃ result kept, (apply limit .empty template (some d) x given).outcome = .ok (result, kept) := by
  rw [apply_returns_iff_of_wellFormed hlimit hd]
  rintro ⟨-, before, c, after, text, r, hsplit, -, hfind, hbreaks⟩
  have hc : c ∈ d.replacements := by simp [hsplit]
  have hr : r ∈ c.rules := List.mem_of_find?_eq_some hfind
  exact Replacement.not_breaks_of_expanded ((hd.replacements c hc).2 r hr)
    (hexpanded c hc r hr hbreaks.1) hbreaks

/-- **Applying a document that has been read returns a text, unless a partial breaks a replacement.**
Whatever the template and the context, application on an empty cache fails exactly if the pass comes to a
pattern rule whose pattern occurs and whose replacement, with its partials, does not go with it. -/
theorem apply_returns_iff {limit : Int} {source text : String} {d : RuleDocument} (hlimit : 1 ≤ limit)
    (hparse : (RuleDocument.parse limit source text).outcome = .ok d) (template : String) (x : Context)
    (given : Option String) :
    (∃ result kept, (apply limit .empty template (some d) x given).outcome = .ok (result, kept)) ↔
      ¬ Pass.Breaks ⟨x.templateName given, limit, x, d.partials⟩ d template := by
  rw [RuleDocument.outcome_parse] at hparse
  exact apply_returns_iff_of_wellFormed (by omega) (RuleDocument.wellFormed_of_ofText hlimit hparse)
    template x given

/-- A document whose only rule puts a partial in the place of a pattern without groups. -/
def danglingPartial : String :=
  "partials:\n  p: $9\nreplacements:\n- find: a\n  replace: '\x7b\x7b>p\x7d\x7d'\n  type: regex\n"

/-- A context without properties. -/
def bareContext (template : String) : Context := ⟨none, some template, [], [], .markers⟩

/-- The document is accepted, and applying it fails. -/
theorem exists_danglingPartial :
    ∃ d, (RuleDocument.parse 8 "<string>" danglingPartial).outcome = .ok d ∧
      ∀ result kept, (apply 8 .empty "a" (some d) (bareContext "a") none).outcome ≠
        .ok (result, kept) := by
  obtain ⟨d, hd, hfails⟩ : ∃ d, (RuleDocument.parse 8 "<string>" danglingPartial).outcome = .ok d ∧
      (failure? (apply 8 .empty "a" (some d) (bareContext "a") none).outcome).isSome = true :=
    RuleDocument.exists_parse_of_any (by decide +kernel)
  refine ⟨d, hd, fun result kept hout => ?_⟩
  simp [hout, failure?] at hfails

theorem apply_danglingPartial_iff :
    ∃ d, (RuleDocument.parse 8 "<string>" danglingPartial).outcome = .ok d ∧
      ((∃ result kept, (apply 8 .empty "a" (some d) (bareContext "a") none).outcome =
        .ok (result, kept)) ↔
      ¬ Pass.Breaks ⟨(bareContext "a").templateName none, 8, bareContext "a", d.partials⟩ d "a") := by
  obtain ⟨d, hd, -⟩ := exists_danglingPartial
  exact ⟨d, hd, apply_returns_iff (by decide) hd "a" (bareContext "a") none⟩

/-- The partial refers to a group that the pattern does not have: the document is accepted, and applying
it fails. -/
theorem apply_danglingPartial_fails :
    ¬ ∀ d, (RuleDocument.parse 8 "<string>" danglingPartial).outcome = .ok d →
      ∃ result kept, (apply 8 .empty "a" (some d) (bareContext "a") none).outcome =
        .ok (result, kept) := by
  intro h
  obtain ⟨d, hd, hfails⟩ := exists_danglingPartial
  obtain ⟨result, kept, hout⟩ := h d hd
  exact hfails result kept hout

end TemplateRules.Engine
