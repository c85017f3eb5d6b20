import TemplateRules.Proofs.PassOutcome

/-!
# Failures of a pass

Everything that a pass over a document can fail with, whether or not the document has been validated. A chain
that is followed beyond the limit is refused, and so is a rule without a place or a target; the matches of a
pattern are the only edit that fails for another reason. Conditions never fail.

## Main definitions

* `Pass.OverrunsIn`: a chain of a document is followed beyond the limit
* `Pass.LacksTarget`: a pass comes to a smart replacement without a target

## Main results

* `Pass.applyChain_eq_error_iff`: when a chain fails
* `Pass.applyDocument_failure`: what a pass fails with
* `Pass.not_overrunsIn_of_eq_ok`: a pass that returns has followed no chain beyond the limit
-/

namespace TemplateRules

variable {p : Pass} {text : String} {f : Failure}

/-! ## Edits -/

theorem Edit.compilePattern_ne_customization {source : String} (e : CustomizationError) :
    compilePattern source ≠ .error (.customization e) := by
  rw [compilePattern]
  split <;> simp

theorem Edit.compileReplacement_ne_customization {pattern : Pattern} {replacement : String} {most : Option Nat}
    (e : CustomizationError) : compileReplacement pattern replacement most ≠ .error (.customization e) := by
  rw [compileReplacement]
  split <;> simp

/-- The edit of a replacement fails only over its pattern, and never as a rule that is refused. -/
theorem Replacement.edit_ne_customization {r : Replacement} (e : CustomizationError) :
    (r.edit p text).outcome ≠ .error (.customization e) := by
  intro h
  rw [Replacement.edit, Attempt.outcome_bind, Pass.outcome_expand, ok_bind] at h
  cases hkind : r.kind with
  | literal => simp [hkind] at h
  | pattern =>
    rw [hkind] at h
    simp only [Edit.replaceMatches, Attempt.outcome_bind, Attempt.outcome_liftM] at h
    rcases bind_eq_error.mp h with h | ⟨pattern, -, h⟩
    · exact Edit.compilePattern_ne_customization e h
    · cases hoccurs : pattern.occursIn text.toList with
      | false => simp [hoccurs] at h
      | true =>
        simp only [hoccurs, Bool.not_true, Bool.false_eq_true, if_false, Attempt.outcome_bind,
          Attempt.outcome_liftM] at h
        rcases bind_eq_error.mp h with h | ⟨pieces, -, h⟩
        · exact Edit.compileReplacement_ne_customization e h
        · simp at h

namespace Pass

/-! ## Rules of a pass -/

section

variable {α : Type} {kind : String} {conditions : α → Option ConditionSet} {depth : Nat} {rules : List α}
  {edit : α → String → Attempt String}

/-- A chain fails if it is followed beyond the limit, or if the edit of its rule does. -/
theorem applyChain_eq_error_iff :
    (p.select kind conditions depth rules >>= fun s => carryOut edit s text).outcome = .error f ↔
      (p.Overruns conditions depth rules ∧ f = p.overrun depth) ∨
        (¬ p.Overruns conditions depth rules ∧
          ∃ r, rules.find? (fun rule => p.meets (conditions rule)) = some r ∧
            (edit r text).outcome = .error f) := by
  rw [Attempt.outcome_bind, outcome_select]
  by_cases hoverruns : p.Overruns conditions depth rules
  · simp [hoverruns, eq_comm]
  · cases hfind : rules.find? fun rule => p.meets (conditions rule) with
    | none => simp [hoverruns, carryOut]
    | some r => simp [hoverruns, carryOut]

theorem not_overruns_of_eq_ok {result : String}
    (h : (p.select kind conditions depth rules >>= fun s => carryOut edit s text).outcome = .ok result) :
    ¬ p.Overruns conditions depth rules := by
  intro hoverruns
  have herror : (p.select kind conditions depth rules >>= fun s => carryOut edit s text).outcome =
      .error (p.overrun depth) := applyChain_eq_error_iff.mpr (.inl ⟨hoverruns, rfl⟩)
  simp [h] at herror

end

theorem outcome_replacementStep {position : Nat} {c : Chain Replacement} :
    (p.replacementStep position c text).outcome =
      (p.select "Replacement" Replacement.conditions 0 c.rules >>= fun s =>
        carryOut (Replacement.edit p) s text).outcome := by
  rw [replacementStep, Attempt.outcome_bind, outcome_noteStep]
  rfl

theorem outcome_insertionStep {position : Nat} {c : Chain Insertion} :
    (p.insertionStep position c text).outcome =
      (p.select "Insertion" Insertion.conditions 0 c.rules >>= fun s =>
        carryOut (Insertion.edit p) s text).outcome := by
  have hstep : (p.insertionStep position c text).outcome =
      (p.applyInsertion c text).outcome >>= fun result => .ok result := by
    simp [insertionStep, Attempt.outcome_bind]
  rw [hstep]
  exact bind_pure _

/-- A smart insertion fails as a rule of its own, or else as the chain of its fallbacks. -/
theorem outcome_applySmartInsertion {i : SmartInsertion} :
    (p.applySmartInsertion i text).outcome =
      if p.meets i.conditions then (i.edit p text).outcome
      else (p.select "Insertion" Insertion.conditions 1 i.fallbacks >>= fun s =>
        carryOut (Insertion.edit p) s text).outcome := by
  rw [applySmartInsertion, Attempt.outcome_bind, outcome_holds, ok_bind]
  cases hmeets : p.meets i.conditions with
  | true => rfl
  | false =>
    cases hfallbacks : i.fallbacks with
    | nil => rfl
    | cons next rest => rfl

theorem applySmartReplacement_eq_error_iff {r : SmartReplacement} :
    (p.applySmartReplacement r text).outcome = .error f ↔
      p.meets r.conditions = true ∧ ¬ r.Targeted ∧ f = .customization ⟨p.template, .noTarget⟩ := by
  rw [applySmartReplacement, Attempt.outcome_bind, outcome_holds, ok_bind]
  cases hmeets : p.meets r.conditions with
  | true => simp [SmartReplacement.edit_eq_error_iff]
  | false => simp

/-! ## The pass -/

section

variable {α : Type} {apply : Nat → α → String → Attempt String} {rules : List α} {position : Nat}

/-- If a pass over rules fails, one of the rules does. -/
theorem exists_of_applyAll_eq_error (h : (applyAll apply position rules text).outcome = .error f) :
    ∃ rule ∈ rules, ∃ position left, (apply position rule left).outcome = .error f := by
  obtain ⟨before, rule, after, left, rfl, -, hrule⟩ := applyAll_eq_error_iff.mp h
  exact ⟨rule, by simp, _, left, hrule⟩

/-- If a pass over rules returns, so does every rule. -/
theorem exists_of_applyAll_eq_ok {result : String}
    (h : (applyAll apply position rules text).outcome = .ok result) {rule : α} (hrule : rule ∈ rules) :
    ∃ position left next, (apply position rule left).outcome = .ok next := by
  induction rules generalizing position text with
  | nil => simp at hrule
  | cons first rules ih =>
    rw [applyAll, Attempt.outcome_bind] at h
    obtain ⟨next, hnext, hrest⟩ := bind_eq_ok.mp h
    rcases List.mem_cons.mp hrule with rfl | hrule
    · exact ⟨position, text, next, hnext⟩
    · exact ih hrest hrule

end

/-- A chain of a document is followed beyond the limit. The chain of a smart insertion begins with conditions
of its own. -/
def OverrunsIn (p : Pass) (d : RuleDocument) : Prop :=
  (∃ c ∈ d.replacements, p.Overruns Replacement.conditions 0 c.rules) ∨
    (∃ c ∈ d.insertions, p.Overruns Insertion.conditions 0 c.rules) ∨
      ∃ i ∈ d.smartInsertions, p.meets i.conditions = false ∧
        p.Overruns Insertion.conditions 1 i.fallbacks

/-- A pass comes to a smart replacement without a target: the conditions of the document hold, the replacements
and the smart replacements before it have been carried out, and its own conditions hold. -/
def LacksTarget (p : Pass) (d : RuleDocument) (template : String) : Prop :=
  p.meets d.conditions = true ∧ ∃ text before r after left,
    (applyAll p.replacementStep 0 d.replacements template).outcome = .ok text ∧
    d.smartReplacements = before ++ r :: after ∧
    (applyAll (fun _ => p.applySmartReplacement) 0 before text).outcome = .ok left ∧
    p.meets r.conditions = true ∧ ¬ r.Targeted

/-- What a pass over a document fails with. -/
inductive FailsWith (p : Pass) (d : RuleDocument) (template : String) : Failure → Prop where
  | edit {f : Failure} (hf : ∀ e, f ≠ .customization e) : FailsWith p d template f
  | overrun {depth : Nat} (hdepth : depth ≤ 1) (h : p.OverrunsIn d) :
    FailsWith p d template (p.overrun depth)
  | noTarget (h : p.LacksTarget d template) :
    FailsWith p d template (.customization ⟨p.template, .noTarget⟩)
  | noAnchor : FailsWith p d template (.customization ⟨p.template, .noAnchor⟩)
  | noPlace : FailsWith p d template (.customization ⟨p.template, .noPlace⟩)

section

variable {d : RuleDocument} {template : String}

theorem failsWith_of_replacements
    (h : (applyAll p.replacementStep 0 d.replacements template).outcome = .error f) :
    p.FailsWith d template f := by
  obtain ⟨c, hc, position, left, h⟩ := exists_of_applyAll_eq_error h
  rw [outcome_replacementStep] at h
  rcases applyChain_eq_error_iff.mp h with ⟨hoverruns, rfl⟩ | ⟨-, r, -, hedit⟩
  · exact .overrun (Nat.zero_le 1) (.inl ⟨c, hc, hoverruns⟩)
  · refine .edit fun e he => ?_
    exact Replacement.edit_ne_customization e (he ▸ hedit)

theorem failsWith_of_insertion {i : Insertion} (h : (i.edit p text).outcome = .error f) :
    p.FailsWith d template f := by
  obtain ⟨-, rfl⟩ := Insertion.edit_eq_error_iff.mp h
  exact .noAnchor

theorem failsWith_of_insertions
    (h : (applyAll p.insertionStep 0 d.insertions text).outcome = .error f) :
    p.FailsWith d template f := by
  obtain ⟨c, hc, position, left, h⟩ := exists_of_applyAll_eq_error h
  rw [outcome_insertionStep] at h
  rcases applyChain_eq_error_iff.mp h with ⟨hoverruns, rfl⟩ | ⟨-, i, -, hedit⟩
  · exact .overrun (Nat.zero_le 1) (.inr (.inl ⟨c, hc, hoverruns⟩))
  · exact failsWith_of_insertion hedit

theorem failsWith_of_smartInsertions
    (h : (applyAll (fun _ => p.applySmartInsertion) 0 d.smartInsertions text).outcome = .error f) :
    p.FailsWith d template f := by
  obtain ⟨i, hi, position, left, h⟩ := exists_of_applyAll_eq_error h
  rw [outcome_applySmartInsertion] at h
  cases hmeets : p.meets i.conditions with
  | true =>
    rw [hmeets, if_pos rfl] at h
    obtain ⟨-, rfl⟩ := SmartInsertion.edit_eq_error_iff.mp h
    exact .noPlace
  | false =>
    rw [hmeets, if_neg Bool.false_ne_true] at h
    rcases applyChain_eq_error_iff.mp h with ⟨hoverruns, rfl⟩ | ⟨-, i, -, hedit⟩
    · exact .overrun (Nat.le_refl 1) (.inr (.inr ⟨i, hi, hmeets, hoverruns⟩))
    · exact failsWith_of_insertion hedit

/-- What makes a pass fail is a rule of the document, and the conditions of the document hold. -/
theorem applyDocument_failure (h : (p.applyDocument d template).outcome = .error f) :
    p.meets d.conditions = true ∧ p.FailsWith d template f := by
  rw [applyDocument, Attempt.outcome_bind, outcome_holds, ok_bind] at h
  cases hmeets : p.meets d.conditions with
  | false => simp [hmeets] at h
  | true =>
    refine ⟨rfl, ?_⟩
    simp only [hmeets, if_true, Attempt.outcome_bind] at h
    rcases bind_eq_error.mp h with h | ⟨text₁, h₁, h⟩
    · exact failsWith_of_replacements h
    rcases bind_eq_error.mp h with h | ⟨text₂, -, h⟩
    · obtain ⟨before, r, after, left, hsplit, hleft, hr⟩ := applyAll_eq_error_iff.mp h
      obtain ⟨hmeets', htarget, rfl⟩ := applySmartReplacement_eq_error_iff.mp hr
      exact .noTarget ⟨hmeets, text₁, before, r, after, left, h₁, hsplit, hleft, hmeets', htarget⟩
    rcases bind_eq_error.mp h with h | ⟨text₃, -, h⟩
    · exact failsWith_of_insertions h
    rcases bind_eq_error.mp h with h | ⟨text₄, -, h⟩
    · exact failsWith_of_smartInsertions h
    · simp [outcome_noteStep] at h

/-- A pass that comes to a smart replacement without a target fails for that. -/
theorem applyDocument_of_lacksTarget (h : p.LacksTarget d template) :
    (p.applyDocument d template).outcome = .error (.customization ⟨p.template, .noTarget⟩) := by
  obtain ⟨hmeets, text, before, r, after, left, htext, hsplit, hleft, hmeets', htarget⟩ := h
  have hsmart : (applyAll (fun _ => p.applySmartReplacement) 0 d.smartReplacements text).outcome =
      .error (.customization ⟨p.template, .noTarget⟩) :=
    applyAll_eq_error_iff.mpr ⟨before, r, after, left, hsplit, hleft,
      applySmartReplacement_eq_error_iff.mpr ⟨hmeets', htarget, rfl⟩⟩
  simp [applyDocument, Attempt.outcome_bind, hmeets, htext, hsmart]

/-- A pass that returns, and whose document's conditions hold, has followed no chain beyond the limit. -/
theorem not_overrunsIn_of_eq_ok (hmeets : p.meets d.conditions = true)
    (h : (p.applyDocument d template).outcome = .ok text) : ¬ p.OverrunsIn d := by
  obtain ⟨hnot, -⟩ | ⟨-, text₁, text₂, text₃, h₁, -, h₃, h₄⟩ := applyDocument_eq_ok_iff.mp h
  · simp [hmeets] at hnot
  rintro (⟨c, hc, hoverruns⟩ | ⟨c, hc, hoverruns⟩ | ⟨i, hi, hnot, hoverruns⟩)
  · obtain ⟨position, left, next, hstep⟩ := exists_of_applyAll_eq_ok h₁ hc
    rw [outcome_replacementStep] at hstep
    exact not_overruns_of_eq_ok hstep hoverruns
  · obtain ⟨position, left, next, hstep⟩ := exists_of_applyAll_eq_ok h₃ hc
    rw [outcome_insertionStep] at hstep
    exact not_overruns_of_eq_ok hstep hoverruns
  · obtain ⟨position, left, next, hstep⟩ := exists_of_applyAll_eq_ok h₄ hi
    rw [outcome_applySmartInsertion, hnot, if_neg Bool.false_ne_true] at hstep
    exact not_overruns_of_eq_ok hstep hoverruns

end

end Pass

end TemplateRules
