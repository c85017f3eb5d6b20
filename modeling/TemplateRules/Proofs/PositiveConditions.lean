import TemplateRules.Proofs.ConditionMeaning

/-!
# Positive conditions

A condition set that forbids no text and negates no set, at any depth, only asks for what the snapshot holds.
A template that holds another one as a stretch shows every text and every feature that the other one shows,
so that such a condition set goes on to hold when more text is put around the snapshot.

## Main definitions

* `Context.withSnapshot`: a context with another snapshot
* `ConditionSet.IsPositive`: condition sets that forbid nothing

## Main results

* `Context.Shows.extend`, `Context.Exhibits.extend`: what a snapshot shows, a longer one shows
* `ConditionSet.Holds.extend`: positive condition sets hold of longer snapshots
* `ConditionSet.evaluate_of_occurs`: so they are evaluated, whatever has been asked before
-/

namespace TemplateRules

open Text

/-! ## Snapshots -/

theorem Text.Occurs.trans {probe s t : String} (hprobe : Occurs probe s) (hs : Occurs s t) :
    Occurs probe t :=
  occurs_iff.mpr ((occurs_iff.mp hprobe).trans (occurs_iff.mp hs))

namespace Context

/-- The context with another snapshot. -/
def withSnapshot (x : Context) (template : String) : Context := { x with template := some template }

variable {x : Context} {s t : String}

theorem shows_withSnapshot {probe : String} : (x.withSnapshot s).Shows probe ↔ Occurs probe s := by
  simp [Shows, withSnapshot]

theorem Shows.extend {probe : String} (h : (x.withSnapshot s).Shows probe) (hst : Occurs s t) :
    (x.withSnapshot t).Shows probe := by
  rw [shows_withSnapshot] at h ⊢
  exact h.trans hst

/-- A longer snapshot has the features of the shorter one, as far as they are detected by their markers. -/
theorem Exhibits.extend (hmarkers : x.detector = .markers) {feature : String}
    (h : (x.withSnapshot s).Exhibits feature) (hst : Occurs s t) : (x.withSnapshot t).Exhibits feature := by
  simp only [Exhibits, withSnapshot, hmarkers, Option.getD_some] at h ⊢
  obtain ⟨probe, hprobe, hshown⟩ := h
  exact ⟨probe, hprobe, hshown.trans hst⟩

end Context

/-! ## Clauses -/

/-- Plain clauses that forbid no text hold of a longer snapshot if they hold of the shorter one. -/
theorem Clauses.Hold.extend {x : Context} (hmarkers : x.detector = .markers) {c : Clauses}
    (hpositive : c.templateNotContains = none) {s t : String} (hst : Occurs s t) (h : c.Hold (x.withSnapshot s)) :
    c.Hold (x.withSnapshot t) where
  generatorVersion := h.generatorVersion
  templateContains probe hprobe := (h.templateContains probe hprobe).extend hst
  templateNotContains probe hprobe := by simp [hpositive] at hprobe
  templateContainsAll probes hprobes probe hmem := (h.templateContainsAll probes hprobes probe hmem).extend hst
  templateContainsAny probes hprobes := by
    obtain ⟨probe, hmem, hshown⟩ := h.templateContainsAny probes hprobes
    exact ⟨probe, hmem, hshown.extend hst⟩
  hasFeature feature hfeature := (h.hasFeature feature hfeature).extend hmarkers hst
  hasAllFeatures features hfeatures feature hmem :=
    (h.hasAllFeatures features hfeatures feature hmem).extend hmarkers hst
  hasAnyFeatures features hfeatures := by
    obtain ⟨feature, hmem, hshown⟩ := h.hasAnyFeatures features hfeatures
    exact ⟨feature, hmem, hshown.extend hmarkers hst⟩
  projectProperty := h.projectProperty
  environmentVariable := h.environmentVariable
  buildType := h.buildType

/-! ## Condition sets -/

namespace ConditionSet

/-- A condition set forbids no text and negates no set, and neither do the sets under `allOf` and `anyOf`. -/
inductive IsPositive : ConditionSet → Prop
  | mk {clauses : Clauses} {allOf anyOf : Option (List ConditionSet)}
      (clauses_positive : clauses.templateNotContains = none)
      (allOf_positive : ∀ cs, allOf = some cs → ∀ c ∈ cs, IsPositive c)
      (anyOf_positive : ∀ cs, anyOf = some cs → ∀ c ∈ cs, IsPositive c) :
      IsPositive (.mk clauses allOf anyOf none)

variable {x : Context} {c : ConditionSet} {s t : String}

/-- A positive condition set that holds of a snapshot holds of a longer one. The induction is on the nesting
of the sets that are under `allOf` and `anyOf`. -/
theorem Holds.extend (hc : c.IsPositive) (hmarkers : x.detector = .markers) (hst : Occurs s t)
    (h : c.Holds (x.withSnapshot s)) : c.Holds (x.withSnapshot t) := by
  induction hc with
  | mk clauses_positive _ _ ihall ihany =>
    obtain ⟨hclauses, hall, hany, -⟩ := holds_mk.mp h
    refine holds_mk.mpr ⟨hclauses.extend hmarkers clauses_positive hst, ?_, ?_, by simp⟩
    · intro cs hcs c hmem
      exact ihall cs hcs c hmem (hall cs hcs c hmem)
    · intro cs hcs
      obtain ⟨c, hmem, hholds⟩ := hany cs hcs
      exact ⟨c, hmem, ihany cs hcs c hmem hholds⟩

end ConditionSet

/-- **Positive conditions are monotone in the template.** A positive condition set that is evaluated to true
on a snapshot is evaluated to true on every longer one, in a context that is the same but for the snapshot and
detects features by their markers, whatever the two contexts have been asked before. -/
theorem ConditionSet.evaluate_of_occurs {c : ConditionSet} (hc : c.IsPositive) {x : Context}
    (hmarkers : x.detector = .markers) {s t : String} (hst : Occurs s t)
    (asked asked' : List Context.Question)
    (h : ((c.evaluate (x.withSnapshot s)).run ((x.withSnapshot s).remembered asked)).value.1 = true) :
    ((c.evaluate (x.withSnapshot t)).run ((x.withSnapshot t).remembered asked')).value.1 = true := by
  have hholds : c.Holds (x.withSnapshot s) :=
    ((c.decides_evaluate (x.withSnapshot s)).answer ((x.withSnapshot s).faithful_remembered asked)).mp h
  have hextended : c.Holds (x.withSnapshot t) := hholds.extend hc hmarkers hst
  exact ((c.decides_evaluate (x.withSnapshot t)).answer
    ((x.withSnapshot t).faithful_remembered asked')).mpr hextended

/-- That the template shows a custom feature, and that it imports something or has one of two texts. -/
def auditedImports : ConditionSet :=
  .mk ⟨none, none, none, none, none, none, some ["custom_audit_log"], none, none, none, none⟩ (some [])
    (some [.mk ⟨none, none, none, none, some ["x", "y"], none, none, none, none, none, none⟩ none none none,
      .mk ⟨none, none, none, none, none, some "imports_section", none, none, none, none, none⟩ none none none])
    none

theorem evaluate_auditedImports : auditedImports.IsPositive ∧
    Occurs "\x7b\x7b#auditLog\x7d\x7dimport a" "b\x7b\x7b#auditLog\x7d\x7dimport abc" ∧
    ((auditedImports.evaluate (unversionedContext.withSnapshot "\x7b\x7b#auditLog\x7d\x7dimport a")).run
      .empty).value.1 = true ∧
    ((auditedImports.evaluate (unversionedContext.withSnapshot "b\x7b\x7b#auditLog\x7d\x7dimport abc")).run
      ((unversionedContext.withSnapshot "b\x7b\x7b#auditLog\x7d\x7dimport abc").remembered
        [.feature "imports_section", .contains "x"])).value.1 = true := by
  have hpositive : auditedImports.IsPositive := by
    refine .mk rfl (by simp) ?_
    intro cs hcs c hmem
    obtain rfl := Option.some.inj hcs
    simp only [List.mem_cons, List.not_mem_nil, or_false] at hmem
    rcases hmem with rfl | rfl
    · exact .mk rfl (by simp) (by simp)
    · exact .mk rfl (by simp) (by simp)
  have hoccurs : Occurs "\x7b\x7b#auditLog\x7d\x7dimport a" "b\x7b\x7b#auditLog\x7d\x7dimport abc" :=
    ⟨"b", "bc", by decide⟩
  have hshort : ((auditedImports.evaluate
      (unversionedContext.withSnapshot "\x7b\x7b#auditLog\x7d\x7dimport a")).run .empty).value.1 = true := by
    decide +kernel
  exact ⟨hpositive, hoccurs, hshort,
    ConditionSet.evaluate_of_occurs (x := unversionedContext) hpositive rfl hoccurs [] _ hshort⟩

end TemplateRules
