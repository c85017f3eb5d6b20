import TemplateRules.Proofs.DocumentText
import TemplateRules.Proofs.EngineOutcome
import TemplateRules.Proofs.PassOutcome

/-!
# What a result depends on

Contexts agree if they differ in the order of their properties and variables at most: conditions read
both by name only. Passes that agree on the limit, on expanded contents and on the conditions that a
document has come to the same verdict: they return the same text, or they fail for the same reason. They
may fail in different words, because a failure names the template that it is about.

## Main definitions

* `Context.Agrees`: contexts with the same version, snapshot, detector, properties and variables
* `Attempt.result?`, `Attempt.verdict`: the value of an attempt, alone or with the reason of a failure
* `RuleDocument.gates`: the conditions of a document and of its rules
* `Pass.AgreesOn`: passes that expand alike and decide some conditions alike

## Main results

* `Context.Agrees.meets_eq`: contexts that agree meet the same conditions
* `Pass.AgreesOn.verdict_applyDocument`: passes that agree on the conditions of a document come to the
  same verdict
* `Engine.result?_compute_eq`: the result of a document depends on the limit, the template, what the
  document tells and what the context tells
-/

namespace TemplateRules

/-! ## Contexts -/

/-- Contexts with the same version, snapshot and detector and the same value under every name. -/
structure Context.Agrees (x y : Context) : Prop where
  generatorVersion : x.generatorVersion = y.generatorVersion
  template : x.template = y.template
  properties : ∀ name, x.properties.lookup name = y.properties.lookup name
  environment : ∀ name, x.environment.lookup name = y.environment.lookup name
  detector : x.detector = y.detector

namespace Context.Agrees

variable {x y : Context}

theorem templateContains_eq (h : x.Agrees y) : x.templateContains = y.templateContains := by
  funext probe memo
  simp only [Context.templateContains, Context.snapshotContains, h.template]

theorem hasFeature_eq (h : x.Agrees y) : x.hasFeature = y.hasFeature := by
  funext feature memo
  simp only [Context.hasFeature, Context.snapshotHasFeature, h.template, h.detector]

theorem satisfiesSpec_eq {values values' : Table String}
    (h : ∀ name, values.lookup name = values'.lookup name) (nonempty : Bool) (spec : String) :
    Context.satisfiesSpec values nonempty spec = Context.satisfiesSpec values' nonempty spec := by
  rw [Context.satisfiesSpec, Context.satisfiesSpec]
  split
  · rw [h]
  · rw [h]

theorem checks_eq (h : x.Agrees y) (c : Clauses) : c.checks x = c.checks y := by
  have hproperty : x.hasProperty = y.hasProperty := by
    funext spec
    rw [Context.hasProperty, Context.hasProperty, satisfiesSpec_eq h.properties]
  have hvariable : x.hasVariable = y.hasVariable := by
    funext spec
    rw [Context.hasVariable, Context.hasVariable, satisfiesSpec_eq h.environment]
  rw [Clauses.checks, Clauses.checks, h.generatorVersion, h.templateContains_eq, h.hasFeature_eq,
    hproperty, hvariable, Context.propertyValue?, Context.propertyValue?,
    Context.environmentValue?, Context.environmentValue?, h.properties, h.environment]

mutual

theorem evaluate_eq (h : x.Agrees y) : ∀ c : ConditionSet, c.evaluate x = c.evaluate y
  | .mk clauses allOf anyOf negated => by
    rw [ConditionSet.evaluate, ConditionSet.evaluate, Clauses.evaluate, Clauses.evaluate,
      checks_eq h clauses, holdsAll_eq h allOf, holdsAny_eq h anyOf, holdsSome_eq h negated]

theorem holdsAll_eq (h : x.Agrees y) : ∀ cs : Option (List ConditionSet),
    ConditionSet.holdsAll x cs = ConditionSet.holdsAll y cs
  | none => rfl
  | some cs => by rw [ConditionSet.holdsAll, ConditionSet.holdsAll, allHold_eq h cs]

theorem holdsAny_eq (h : x.Agrees y) : ∀ cs : Option (List ConditionSet),
    ConditionSet.holdsAny x cs = ConditionSet.holdsAny y cs
  | none => rfl
  | some cs => by rw [ConditionSet.holdsAny, ConditionSet.holdsAny, anyHolds_eq h cs]

theorem holdsSome_eq (h : x.Agrees y) : ∀ c : Option ConditionSet,
    ConditionSet.holdsSome x c = ConditionSet.holdsSome y c
  | none => rfl
  | some c => by rw [ConditionSet.holdsSome, ConditionSet.holdsSome, evaluate_eq h c]

theorem allHold_eq (h : x.Agrees y) : ∀ cs : List ConditionSet,
    ConditionSet.allHold x cs = ConditionSet.allHold y cs
  | [] => rfl
  | c :: cs => by rw [ConditionSet.allHold, ConditionSet.allHold, evaluate_eq h c, allHold_eq h cs]

theorem anyHolds_eq (h : x.Agrees y) : ∀ cs : List ConditionSet,
    ConditionSet.anyHolds x cs = ConditionSet.anyHolds y cs
  | [] => rfl
  | c :: cs => by rw [ConditionSet.anyHolds, ConditionSet.anyHolds, evaluate_eq h c, anyHolds_eq h cs]

end

/-- Contexts that agree meet the same conditions. -/
theorem meets_eq (h : x.Agrees y) (conditions : Option ConditionSet) :
    x.meets conditions = y.meets conditions := by
  have heval : ConditionSet.evaluate? x conditions = ConditionSet.evaluate? y conditions := by
    cases conditions with
    | none => rfl
    | some c => exact h.evaluate_eq c
  rw [Context.meets, Context.meets, heval]

end Context.Agrees

/-! ## Verdicts -/

/-- A failure without the name of the template that it is about. -/
def Failure.unnamed : Failure → Failure
  | .customization e => .customization { e with template := "" }
  | failure => failure

namespace Attempt

variable {α β : Type}

/-- The value of an attempt that does not fail. -/
def result? (a : Attempt α) : Option α := a.outcome.toOption

/-- The value of an attempt, or the reason why it fails. -/
def verdict (a : Attempt α) : Except Failure α := a.outcome.mapError Failure.unnamed

theorem result?_eq_some {a : Attempt α} {v : α} : a.result? = some v ↔ a.outcome = .ok v := by
  rw [result?]
  cases a.outcome <;> simp [Except.toOption]

theorem result?_bind (a : Attempt α) (f : α → Attempt β) :
    (a >>= f).result? = a.result?.bind fun v => (f v).result? := by
  rw [result?, outcome_bind, result?]
  cases a.outcome <;> rfl

theorem verdict_bind (a : Attempt α) (f : α → Attempt β) :
    (a >>= f).verdict = a.verdict >>= fun v => (f v).verdict := by
  rw [verdict, outcome_bind, verdict]
  cases a.outcome <;> rfl

/-- Attempts with the same verdict have the same result. -/
theorem result?_eq_of_verdict {a b : Attempt α} (h : a.verdict = b.verdict) : a.result? = b.result? := by
  have hresult : ∀ c : Attempt α, c.result? = c.verdict.toOption := by
    intro c
    rw [result?, verdict]
    cases c.outcome <;> rfl
  rw [hresult, hresult, h]

/-- Sequences of steps with the same verdicts have the same verdict. -/
theorem verdict_bind_congr {a b : Attempt α} {f g : α → Attempt β} (hab : a.verdict = b.verdict)
    (hfg : ∀ v, (f v).verdict = (g v).verdict) : (a >>= f).verdict = (b >>= g).verdict := by
  rw [verdict_bind, verdict_bind, hab]
  exact congrArg _ (funext hfg)

end Attempt

/-! ## Passes -/

/-- The conditions of a document and of its rules, those of fallbacks included. -/
def RuleDocument.gates (d : RuleDocument) : List (Option ConditionSet) :=
  d.conditions ::
    (d.replacements.flatMap (fun c => c.rules.map Replacement.conditions)
      ++ d.smartReplacements.map SmartReplacement.conditions
      ++ d.insertions.flatMap (fun c => c.rules.map Insertion.conditions)
      ++ d.smartInsertions.flatMap (fun i => i.conditions :: i.fallbacks.map Insertion.conditions))

/-- Passes with the same limit that expand contents alike and decide some conditions alike. -/
structure Pass.AgreesOn (p q : Pass) (gates : List (Option ConditionSet)) : Prop where
  limit : p.limit = q.limit
  meets : ∀ conditions ∈ gates, p.meets conditions = q.meets conditions
  expanded : ∀ content,
    Partials.expanded content p.partials = Partials.expanded content q.partials

namespace Pass.AgreesOn

open Attempt (verdict_bind_congr)

variable {p q : Pass} {gates : List (Option ConditionSet)}

theorem mono {some : List (Option ConditionSet)} (h : p.AgreesOn q gates) (hsome : some ⊆ gates) :
    p.AgreesOn q some :=
  ⟨h.limit, fun conditions hmem => h.meets conditions (hsome hmem), h.expanded⟩

theorem holds (h : p.AgreesOn q gates) {conditions : Option ConditionSet} (hmem : conditions ∈ gates) :
    (p.holds conditions).verdict = (q.holds conditions).verdict := by
  rw [Attempt.verdict, Attempt.verdict, outcome_holds, outcome_holds, h.meets conditions hmem]

theorem expand (h : p.AgreesOn q gates) (content : String) :
    (p.expand content).verdict = (q.expand content).verdict := by
  rw [Attempt.verdict, Attempt.verdict, outcome_expand, outcome_expand, h.expanded]

/-- The template that a refusal names is not part of the verdict. -/
theorem verdict_refuse {α : Type} (cause : CustomizationCause) :
    (p.refuse cause : Attempt α).verdict = .error (.customization ⟨"", cause⟩) := rfl

/-- Notes return the same, whatever they say. -/
theorem verdict_noteRule (level : Level) (text text' : String) :
    (noteRule level text).verdict = (noteRule level text').verdict := rfl

theorem noteStep (text text' : String) :
    (p.noteStep text).verdict = (q.noteStep text').verdict := by
  rw [Attempt.verdict, Attempt.verdict, outcome_noteStep, outcome_noteStep]

theorem select {α : Type} {conditions : α → Option ConditionSet} {rules : List α}
    (h : p.AgreesOn q (rules.map conditions)) (kind : String) : ∀ depth,
      (p.select kind conditions depth rules).verdict =
        (q.select kind conditions depth rules).verdict := by
  induction rules with
  | nil => exact fun _ => rfl
  | cons rule fallbacks ih =>
    intro depth
    rw [Pass.select, Pass.select, h.limit]
    split
    · rw [Attempt.verdict_bind, Attempt.verdict_bind, verdict_refuse, verdict_refuse, error_bind,
        error_bind]
    · refine verdict_bind_congr (h.holds (by simp)) fun holds => ?_
      split
      · rfl
      · split
        · rfl
        · exact verdict_bind_congr rfl fun _ => ih (h.mono (by simp)) (depth + 1)

section Edits

variable (h : p.AgreesOn q gates) (text : String)
include h

theorem replacementEdit (r : Replacement) : (r.edit p text).verdict = (r.edit q text).verdict :=
  verdict_bind_congr (h.expand _) fun _ => rfl

theorem smartReplacementEdit (r : SmartReplacement) :
    (r.edit p text).verdict = (r.edit q text).verdict := by
  refine verdict_bind_congr (h.expand _) fun _ => ?_
  split
  · rfl
  · rfl
  · rfl
  · rw [verdict_refuse, verdict_refuse]

theorem insertionEdit (i : Insertion) : (i.edit p text).verdict = (i.edit q text).verdict := by
  refine verdict_bind_congr (h.expand _) fun _ => ?_
  split
  · rfl
  · rfl
  · rfl
  · rw [verdict_refuse, verdict_refuse]

theorem smartInsertionEdit (i : SmartInsertion) :
    (i.edit p text).verdict = (i.edit q text).verdict := by
  refine verdict_bind_congr (h.expand _) fun _ => ?_
  split
  · rfl
  · rfl
  · rw [verdict_refuse, verdict_refuse]

end Edits

theorem carryOut {α : Type} {edit edit' : α → String → Attempt String} {text : String}
    (hedit : ∀ rule, (edit rule text).verdict = (edit' rule text).verdict) (selected : Option α) :
    (Pass.carryOut edit selected text).verdict = (Pass.carryOut edit' selected text).verdict := by
  cases selected with
  | none => rfl
  | some rule => exact hedit rule

theorem replacementStep {c : Chain Replacement} (h : p.AgreesOn q (c.rules.map Replacement.conditions))
    (position : Nat) (text : String) :
    (p.replacementStep position c text).verdict = (q.replacementStep position c text).verdict := by
  refine verdict_bind_congr (noteStep _ _) fun _ => ?_
  refine verdict_bind_congr (h.select _ _) fun selected => ?_
  exact carryOut (h.replacementEdit text) selected

theorem applySmartReplacement {r : SmartReplacement} (h : p.AgreesOn q [r.conditions]) (text : String) :
    (p.applySmartReplacement r text).verdict = (q.applySmartReplacement r text).verdict := by
  refine verdict_bind_congr (h.holds (by simp)) fun holds => ?_
  split
  · exact h.smartReplacementEdit text r
  · rfl

theorem insertionStep {c : Chain Insertion} (h : p.AgreesOn q (c.rules.map Insertion.conditions))
    (position : Nat) (text : String) :
    (p.insertionStep position c text).verdict = (q.insertionStep position c text).verdict := by
  refine verdict_bind_congr ?_ fun result => ?_
  · refine verdict_bind_congr (h.select _ _) fun selected => ?_
    exact carryOut (h.insertionEdit text) selected
  · exact verdict_bind_congr (noteStep _ _) fun _ => rfl

theorem applySmartInsertion {i : SmartInsertion}
    (h : p.AgreesOn q (i.conditions :: i.fallbacks.map Insertion.conditions)) (text : String) :
    (p.applySmartInsertion i text).verdict = (q.applySmartInsertion i text).verdict := by
  refine verdict_bind_congr (h.holds (by simp)) fun holds => ?_
  split
  · exact h.smartInsertionEdit text i
  · split
    · rfl
    · refine verdict_bind_congr rfl fun _ => ?_
      refine verdict_bind_congr (select (h.mono (by simp)) _ _) fun selected => ?_
      exact carryOut (h.insertionEdit text) selected

theorem applyAll {α : Type} {apply apply' : Nat → α → String → Attempt String} {rules : List α}
    (happly : ∀ rule ∈ rules, ∀ position text,
      (apply position rule text).verdict = (apply' position rule text).verdict) :
    ∀ position text, (Pass.applyAll apply position rules text).verdict =
      (Pass.applyAll apply' position rules text).verdict := by
  induction rules with
  | nil => exact fun _ _ => rfl
  | cons rule rules ih =>
    obtain ⟨hrule, hrules⟩ := List.forall_mem_cons.mp happly
    intro position text
    exact verdict_bind_congr (hrule position text) fun next => ih hrules (position + 1) next

/-- **Passes that agree on the conditions of a document come to the same verdict.** -/
theorem verdict_applyDocument {d e : RuleDocument} (h : p.AgreesOn q d.gates) (hd : d.Agrees e)
    (template : String) :
    (p.applyDocument d template).verdict = (q.applyDocument e template).verdict := by
  have hreplacements : ∀ c ∈ d.replacements, ∀ position text,
      (p.replacementStep position c text).verdict = (q.replacementStep position c text).verdict :=
    fun c hc => (h.mono fun g hg => by
      simp only [RuleDocument.gates, List.mem_cons, List.mem_append, List.mem_flatMap]
      exact .inr (.inl (.inl (.inl ⟨c, hc, hg⟩)))).replacementStep
  have hsmartReplacements : ∀ r ∈ d.smartReplacements, ∀ (_ : Nat) text,
      (p.applySmartReplacement r text).verdict = (q.applySmartReplacement r text).verdict :=
    fun r hr _ => (h.mono fun g hg => by
      simp only [RuleDocument.gates, List.mem_cons, List.mem_append, List.mem_map]
      exact .inr (.inl (.inl (.inr ⟨r, hr, (List.mem_singleton.mp hg).symm⟩)))).applySmartReplacement
  have hinsertions : ∀ c ∈ d.insertions, ∀ position text,
      (p.insertionStep position c text).verdict = (q.insertionStep position c text).verdict :=
    fun c hc => (h.mono fun g hg => by
      simp only [RuleDocument.gates, List.mem_cons, List.mem_append, List.mem_flatMap]
      exact .inr (.inl (.inr ⟨c, hc, hg⟩))).insertionStep
  have hsmartInsertions : ∀ i ∈ d.smartInsertions, ∀ (_ : Nat) text,
      (p.applySmartInsertion i text).verdict = (q.applySmartInsertion i text).verdict :=
    fun i hi _ => (h.mono fun g hg => by
      simp only [RuleDocument.gates, List.mem_cons, List.mem_append, List.mem_flatMap]
      exact .inr (.inr ⟨i, hi, List.mem_cons.mp hg⟩)).applySmartInsertion
  rw [Pass.applyDocument, Pass.applyDocument, ← hd.conditions, ← hd.replacements,
    ← hd.smartReplacements, ← hd.insertions, ← hd.smartInsertions]
  refine verdict_bind_congr (h.holds (by simp [RuleDocument.gates])) fun holds => ?_
  split
  · refine verdict_bind_congr (applyAll hreplacements _ _) fun text => ?_
    refine verdict_bind_congr (applyAll hsmartReplacements _ _) fun text => ?_
    refine verdict_bind_congr (applyAll hinsertions _ _) fun text => ?_
    refine verdict_bind_congr (applyAll hsmartInsertions _ _) fun text => ?_
    exact verdict_bind_congr (noteStep _ _) fun _ => rfl
  · exact verdict_bind_congr (verdict_noteRule _ _ _) fun _ => rfl

end Pass.AgreesOn

/-! ## The engine -/

/-- A table is empty if nothing stands under any name. -/
theorem Table.isEmpty_iff_lookup {α : Type} (t : Table α) :
    t.isEmpty = true ↔ ∀ name, t.lookup name = none := by
  rcases t with _ | ⟨⟨name, value⟩, t⟩
  · simp
  · refine ⟨by simp, fun hall => ?_⟩
    have hname := hall name
    simp at hname

/-- Tables with the same text under every name expand contents alike. -/
theorem Partials.expanded_congr {partials partials' : Table String}
    (h : ∀ name, partials.lookup name = partials'.lookup name) (content : String) :
    expanded content partials = expanded content partials' := by
  have hempty : partials.isEmpty = partials'.isEmpty := by
    rw [Bool.eq_iff_iff, partials.isEmpty_iff_lookup, partials'.isEmpty_iff_lookup]
    exact forall_congr' fun name => by rw [h]
  have hexpansion : Segment.expansion partials = Segment.expansion partials' := by
    funext segment
    cases segment with
    | char c => rfl
    | marker inside => rw [Segment.expansion, Segment.expansion, h]
  rw [expanded, expanded, hempty, hexpansion]

namespace Engine

/-- The verdict of a run is that of its pass, but for defects, which the run tells as failures to apply the
document. -/
theorem verdict_run (p : Pass) (d : RuleDocument) (template : String) :
    (run p d template).verdict = (p.applyDocument d template).verdict.mapError fun
      | .defect defect => .customization ⟨"", .unexpected defect⟩
      | failure => failure := by
  rw [Attempt.verdict, Attempt.verdict, outcome_run]
  rcases (p.applyDocument d template).outcome with failure | text
  · cases failure <;> rfl
  · rfl

theorem result?_run (p : Pass) (d : RuleDocument) (template : String) :
    (run p d template).result? = (p.applyDocument d template).result? := by
  rw [Attempt.result?, Attempt.result?, outcome_run]
  rcases (p.applyDocument d template).outcome with failure | text
  · cases failure <;> rfl
  · rfl

/-- The result of a document depends on the limit, the template, what the document tells and what the
context tells. -/
theorem result?_compute_eq {x y : Context} {d e : RuleDocument} (hx : x.Agrees y) (hd : d.Agrees e)
    (limit : Int) (template name name' : String) :
    (compute limit template d x name).result? = (compute limit template e y name').result? := by
  have hpasses : Pass.AgreesOn ⟨name, limit, x, d.partials⟩ ⟨name', limit, y, e.partials⟩ d.gates := by
    refine ⟨rfl, fun conditions _ => ?_, fun content => Partials.expanded_congr hd.partials content⟩
    exact congrArg Traced.value (hx.meets_eq conditions)
  rw [compute, compute, result?_run, result?_run]
  exact Attempt.result?_eq_of_verdict (hpasses.verdict_applyDocument hd template)

end Engine

end TemplateRules
