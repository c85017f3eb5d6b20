import TemplateRules.Proofs.ReadingOnce
import TemplateRules.Proofs.Resolution
import TemplateRules.Proofs.Transparency

/-!
# Customizing a template without what is kept on the way

While a resolver takes a template through its sources, it keeps the results of documents, and a later document
may be answered with one of them. The applications that it makes for one template differ in nothing that their
keys do not tell: they have one limit, and their properties differ in the source only. So a result that is kept
on the way is what the later application would have computed, and the template comes out as if each document
found only the results that were kept at the beginning.

## Main definitions

* `Run.applications`: the applications that a request makes
* `Run.order`: the categories that a template passes through
* `Run.plainly`: a contribution that is carried out without keeping its result

## Main results

* `Engine.answer_step_eq`: an application makes no difference to one that it is not confusable with
* `Run.not_confusable`: no two applications for one template are confusable
* `Run.content_customize`: a template comes out as if nothing were kept on the way
-/

namespace TemplateRules

/-! ## Answers -/

namespace Engine

variable {q r : Application} {kept : Results} {calls : List Call}

/-- What an application gives where some results are kept. -/
def Application.answer (q : Application) (kept : Results) : Except Failure String :=
  (q.attempt kept).outcome.map (·.1)

theorem step_apply_fst : (step kept (.apply q)).1 = some (q.answer kept) := by
  rw [step, Application.answer]
  rcases (q.attempt kept).outcome with f | ⟨text, kept'⟩ <;> rfl

/-- What an application leaves makes no difference to another one that it is not confusable with. A result
that is added matters to the applications of its key only, which return the same. -/
theorem answer_step_eq (hsha : CollisionFree calls) (hq : Call.apply q ∈ calls) (hr : Call.apply r ∈ calls)
    (hnot : ¬ Confusable q r) : r.answer (step kept (.apply q)).2 = r.answer kept := by
  rw [← Option.some.injEq, ← step_apply_fst, ← step_apply_fst]
  cases hqkey : q.key? with
  | none => rw [step_of_no_key hqkey]
  | some key =>
    cases hkept : kept.get? key with
    | some text => rw [step_of_kept hqkey hkept]
    | none =>
      rw [step_of_not_kept hqkey hkept]
      cases hqfresh : q.fresh with
      | error f => rfl
      | ok text =>
        cases hrkey : r.key? with
        | none => rw [step_of_no_key hrkey, step_of_no_key hrkey]
        | some key' =>
          by_cases hkeys : key' = key
          · subst hkeys
            have hadded : (kept.put key' text).2.get? key' = some text := by
              rw [Cache.get?_put, if_pos rfl]
              simp only [Cache.put, hkept]
            have hreturns := (confusable_or_returns hsha hq hr hqkey hrkey).resolve_left hnot text hqfresh
            rw [step_of_kept hrkey hadded, step_of_not_kept hrkey hkept, hreturns]
          · have hother : (kept.put key text).2.get? key' = kept.get? key' := by
              rw [Cache.get?_put, if_neg hkeys]
            cases hkept' : kept.get? key' with
            | some text' => rw [step_of_kept hrkey (hother.trans hkept'), step_of_kept hrkey hkept']
            | none => rw [step_of_not_kept hrkey (hother.trans hkept'), step_of_not_kept hrkey hkept']

end Engine

/-! ## Tables with one value left open -/

namespace Table

variable {α : Type} {name other : String}

/-- A value that is put into a table has one place there, whatever it is. -/
theorem exists_put_eq (t : Table α) (name : String) :
    ∃ before after, ∀ value, t.put name value = before ++ (name, value) :: after := by
  induction t with
  | nil => exact ⟨[], [], fun _ => rfl⟩
  | cons e t ih =>
    by_cases h : e.1 = name
    · exact ⟨[], t, fun value => by simp [put, h]⟩
    · obtain ⟨before, after, hput⟩ := ih
      exact ⟨e :: before, after, fun value => by simp [put, h, hput]⟩

/-- A value that is put under another name leaves an entry in one place, whatever its value is. -/
theorem exists_put_other_eq (h : other ≠ name) (v : α) (before after : Table α) :
    ∃ before' after', ∀ value,
      put other v (before ++ (name, value) :: after) = before' ++ (name, value) :: after' := by
  induction before with
  | nil => exact ⟨[], put other v after, fun value => by simp [put, h.symm]⟩
  | cons e before ih =>
    by_cases he : e.1 = other
    · exact ⟨(e.1, v) :: before, after, fun value => by simp [put, he]⟩
    · obtain ⟨before', after', hput⟩ := ih
      exact ⟨e :: before', after', fun value => by simp [put, he, hput]⟩

end Table

/-! ## Applications for one template -/

namespace Run

/-- The application of a document to the text of a template. -/
def application (r : Run) (s : Source) (template text : String) (d : RuleDocument) :
    Engine.Application where
  limit := r.settings.limit
  template := text
  document := some d
  context := r.context s template text
  given := some template

variable {r : Run} {m m' n : Memory} {s s' : Source} {template text text' next : String}
  {d e : RuleDocument}

/-- The properties that a document sees for a template differ from source to source in one value. -/
theorem exists_properties_eq (r : Run) (template : String) : ∃ before after, ∀ s text,
    (r.context s template text).properties = before ++ ("templateSource", s.name) :: after := by
  obtain ⟨before, after, hput⟩ := Table.exists_put_eq
    ((r.settings.properties.put "generatorName" r.settings.generator).put "templateName" template)
    "templateSource"
  obtain ⟨before', after', hother⟩ := Table.exists_put_other_eq
    (show "debug" ≠ "templateSource" by decide) (if r.settings.debug then "true" else "false") before after
  refine ⟨before', after', fun s text => ?_⟩
  rw [← hother, ← hput]
  rfl

/-- The key of an application for a template tells all that it depends on, its source included. Only the
source may differ, and the text of the properties tells it. -/
theorem not_confusable :
    ¬ Engine.Confusable (r.application s template text d) (r.application s' template text' e) := by
  intro h
  obtain ⟨before, after, hproperties⟩ := r.exists_properties_eq template
  have htext : text = text' := h.template
  have hvalue := h.properties
  simp only [application, hproperties] at hvalue
  have hsource : s = s' := Source.name_injective (Digest.value_eq_of_mappingText_eq hvalue)
  subst htext hsource
  exact h.differ.elim (fun hlimit => hlimit rfl)
    fun hagrees => hagrees ⟨rfl, rfl, fun _ => rfl, fun _ => rfl, rfl⟩

/-! ## Applications of a request -/

/-- The document that is in force under a name: the one that is remembered, or else the one that a text is
read as. -/
def inForce (r : Run) (documents : List (String × RuleDocument)) (name rules : String) :
    Except Failure RuleDocument :=
  match documents.lookup name with
  | some d => .ok d
  | none => RuleDocument.ofText r.settings.limit name rules

/-- The application that a call makes, if there is a document to apply. -/
def applicationOf (r : Run) (c : Call) : Except Failure Engine.Application :=
  (r.inForce c.memory.documents c.name c.rules).map (r.application c.source c.template c.text)

/-- The applications that calls make. -/
def applicationsOf (r : Run) (calls : List Call) : List Engine.Call :=
  calls.filterMap fun c => (r.applicationOf c).toOption.map .apply

/-- The applications that a request makes, in order. -/
def applications (r : Run) (m : Memory) (request : Request) : List Engine.Call :=
  r.applicationsOf (r.callsOfRequest m request)

/-- What a call comes to before failures are passed over. -/
def answerTo (r : Run) (c : Call) : Except Failure String :=
  (r.applicationOf c).bind fun q => q.answer c.memory.results

/-- The results that are kept after a call. -/
def resultsAfter (r : Run) (c : Call) : Results :=
  match r.applicationOf c with
  | .ok q => (Engine.step c.memory.results (.apply q)).2
  | .error _ => c.memory.results

theorem outcome_applyDocument_eq_answer (d : RuleDocument) :
    Working.outcome (r.applyDocument d s template text) m =
      ((r.application s template text d).answer m.results,
        { m with results := (Engine.step m.results (.apply (r.application s template text d))).2 }) := by
  have hattempt : (r.application s template text d).attempt m.results =
      Engine.apply r.settings.limit m.results text (some d) (r.context s template text) (some template) := rfl
  rw [outcome_applyDocument, Engine.Application.answer, Engine.step, hattempt]
  rcases (Engine.apply r.settings.limit m.results text (some d) (r.context s template text)
    (some template)).outcome with f | ⟨text', kept⟩ <;> rfl

/-- Reading and applying a document: what it comes to, and what is remembered then. -/
theorem outcome_readAndApply (c : Call) :
    Working.outcome (r.readAndApply c.source c.template c.text c.name c.rules) c.memory =
      (r.answerTo c, { c.memory with
        documents := learn r.settings.limit c.memory.documents c
        results := r.resultsAfter c }) := by
  rw [readAndApply, Working.outcome_bind, outcome_document]
  simp only [answerTo, resultsAfter, applicationOf, inForce, learn]
  cases c.memory.documents.lookup c.name with
  | some d => exact outcome_applyDocument_eq_answer d
  | none =>
    cases RuleDocument.ofText r.settings.limit c.name c.rules with
    | ok d => exact outcome_applyDocument_eq_answer d
    | error f => rfl

/-- Rules that are applied, where that returns, come to their answer, or else leave the text as it was. -/
theorem applyRules_returns {c : Call}
    (h : Working.outcome (r.applyRules c.source c.template c.text c.name c.rules) c.memory = (.ok next, m')) :
    next = (r.answerTo c).toOption.getD c.text ∧ m' = { c.memory with
      documents := learn r.settings.limit c.memory.documents c
      results := r.resultsAfter c } := by
  rw [outcome_applyRules, outcome_readAndApply] at h
  cases hanswer : r.answerTo c with
  | ok text =>
    simp only [hanswer, Prod.mk.injEq, Except.ok.injEq] at h
    exact ⟨h.1.symm, h.2.symm⟩
  | error f =>
    simp only [hanswer] at h
    have hreturns : ∀ defect, f ≠ .defect defect := by
      rintro defect rfl
      simp [passOver] at h
    rw [outcome_passOver hreturns, Prod.mk.injEq, Except.ok.injEq] at h
    exact ⟨h.1.symm, h.2.symm⟩

/-! ## Plain runs -/

/-- The text and the memory after a contribution that is carried out without keeping its result. -/
def plainly (r : Run) (template : String) (before : String × Memory) : Contribution → String × Memory
  | .full text => (text, before.2)
  | .rules s name rules =>
    let c : Call := ⟨s, template, before.1, name, rules, before.2⟩
    ((r.answerTo c).toOption.getD before.1,
      { before.2 with documents := learn r.settings.limit before.2.documents c })

theorem compatible_foldl_plainly (r : Run) (template : String) (cs : List Contribution)
    (before : String × Memory) : (cs.foldl (r.plainly template) before).2.compatible = before.2.compatible := by
  induction cs generalizing before with
  | nil => rfl
  | cons c cs ih =>
    rw [List.foldl_cons, ih]
    cases c <;> rfl

/-- Memories with the same documents and libraries, whose results answer the applications for a template
that are among some calls alike. -/
structure Alike (r : Run) (template : String) (calls : List Engine.Call) (m n : Memory) : Prop where
  documents : m.documents = n.documents
  carriers : r.carriers m = r.carriers n
  answers : ∀ s text d, .apply (r.application s template text d) ∈ calls →
    (r.application s template text d).answer m.results = (r.application s template text d).answer n.results

theorem Alike.refl (calls : List Engine.Call) (m : Memory) : r.Alike template calls m m :=
  ⟨rfl, rfl, fun _ _ _ _ => rfl⟩

section Simulation

variable {calls : List Engine.Call} {c : Call}

/-- The application of a call that is among some calls. -/
theorem exists_application_of_subset (hcalls : r.applicationsOf [c] ⊆ calls) {q : Engine.Application}
    (h : r.applicationOf c = .ok q) :
    ∃ d, q = r.application c.source c.template c.text d ∧ .apply q ∈ calls := by
  obtain ⟨d, -, rfl⟩ := map_eq_ok.mp h
  exact ⟨d, rfl, hcalls (by simp [applicationsOf, h, Except.toOption])⟩

/-- A call comes to the same from memories that are alike. -/
theorem Alike.answerTo_eq (halike : r.Alike c.template calls c.memory n)
    (hcalls : r.applicationsOf [c] ⊆ calls) : r.answerTo c = r.answerTo { c with memory := n } := by
  have happlications : r.applicationOf { c with memory := n } = r.applicationOf c := by
    rw [applicationOf, applicationOf, halike.documents]
  rw [answerTo, answerTo, happlications]
  cases happlication : r.applicationOf c with
  | error f => rfl
  | ok q =>
    obtain ⟨d, rfl, hmem⟩ := exists_application_of_subset hcalls happlication
    exact halike.answers c.source c.text d hmem

/-- A call leaves results that answer the applications for its template as before. -/
theorem answer_resultsAfter (hsha : Engine.CollisionFree calls) (hcalls : r.applicationsOf [c] ⊆ calls)
    (hmem : .apply (r.application s c.template text d) ∈ calls) :
    (r.application s c.template text d).answer (r.resultsAfter c) =
      (r.application s c.template text d).answer c.memory.results := by
  rw [resultsAfter]
  cases happlication : r.applicationOf c with
  | error f => rfl
  | ok q =>
    obtain ⟨e, rfl, hq⟩ := exists_application_of_subset hcalls happlication
    exact Engine.answer_step_eq hsha hq hmem not_confusable

/-- A contribution does the same from memories that are alike, whether its result is kept or not. -/
theorem plainly_of_applyContribution (hsha : Engine.CollisionFree calls) {c : Contribution}
    (hcalls : r.applicationsOf (callOf template text m c) ⊆ calls) (halike : r.Alike template calls m n)
    (h : Working.outcome (r.applyContribution template c text) m = (.ok next, m')) :
    ∃ n', r.plainly template (text, n) c = (next, n') ∧ r.Alike template calls m' n' := by
  cases c with
  | full replacement =>
    obtain ⟨rfl, rfl⟩ : replacement = next ∧ m = m' := by simpa [applyContribution] using h
    exact ⟨n, rfl, halike⟩
  | rules s name rules =>
    obtain ⟨rfl, rfl⟩ := applyRules_returns (c := ⟨s, template, text, name, rules, m⟩) h
    refine ⟨{ n with documents := learn r.settings.limit n.documents ⟨s, template, text, name, rules, n⟩ },
      ?_, ?_, halike.carriers, ?_⟩
    · rw [plainly, halike.answerTo_eq hcalls]
    · simp only [learn, halike.documents]
    · intro s' text' d hmem
      exact (answer_resultsAfter hsha hcalls hmem).trans (halike.answers s' text' d hmem)

theorem applicationsOf_append (cs ds : List Call) :
    r.applicationsOf (cs ++ ds) = r.applicationsOf cs ++ r.applicationsOf ds :=
  List.filterMap_append

/-- Contributions one after the other do the same, whether their results are kept or not. -/
theorem plainly_of_applyContributions (hsha : Engine.CollisionFree calls) {cs : List Contribution}
    (hcalls : r.applicationsOf (r.callsOfContributions template cs text m) ⊆ calls)
    (halike : r.Alike template calls m n)
    (h : Working.outcome (r.applyContributions template cs text) m = (.ok next, m')) :
    ∃ n', cs.foldl (r.plainly template) (text, n) = (next, n') ∧ r.Alike template calls m' n' := by
  induction cs generalizing text m n with
  | nil =>
    obtain ⟨rfl, rfl⟩ : text = next ∧ m = m' := by simpa using h
    exact ⟨n, rfl, halike⟩
  | cons c cs ih =>
    rw [applyContributions_cons] at h
    obtain ⟨middle, m₁, hfirst, hrest⟩ := Working.outcome_bind_eq_ok.mp h
    rw [callsOfContributions, hfirst, applicationsOf_append, List.append_subset] at hcalls
    obtain ⟨n₁, hplainly, halike₁⟩ := plainly_of_applyContribution hsha hcalls.1 halike hfirst
    rw [List.foldl_cons, hplainly]
    exact ih hcalls.2 halike₁ hrest

/-- Finding out the libraries leaves the memory alike. -/
theorem Alike.memoryAfter (h : r.Alike template calls m n) (s : Source) :
    r.Alike template calls (r.memoryAfter m s) n := by
  have hresults : (r.memoryAfter m s).results = m.results := by cases s <;> rfl
  exact ⟨memoryAfter_spec.1.trans h.documents, memoryAfter_spec.2.trans h.carriers, hresults ▸ h.answers⟩

/-- A category does what its contributions do, whether their results are kept or not. -/
theorem plainly_of_applySource (hsha : Engine.CollisionFree calls)
    (hcalls : r.applicationsOf (r.callsOfSource s template text m) ⊆ calls)
    (halike : r.Alike template calls m n)
    (h : Working.outcome (r.applySource s template text) m = (.ok next, m')) :
    ∃ n', (r.contributions (r.carriers n) template s).foldl (r.plainly template) (text, n) = (next, n') ∧
      r.Alike template calls m' n' := by
  rw [outcome_applySource, halike.carriers] at h
  rw [callsOfSource, halike.carriers] at hcalls
  exact plainly_of_applyContributions hsha hcalls (halike.memoryAfter s) h

/-- Categories in order do what all their contributions do, whether the results are kept or not. -/
theorem plainly_of_applySources (hsha : Engine.CollisionFree calls) {ss changing : List Source}
    (hcalls : r.applicationsOf (r.callsOfSources template ss text m) ⊆ calls)
    (halike : r.Alike template calls m n)
    (h : Working.outcome (r.applySources template ss text) m = (.ok (next, changing), m')) :
    next = ((ss.flatMap (r.contributions (r.carriers n) template)).foldl (r.plainly template)
      (text, n)).1 := by
  induction ss generalizing text m n changing m' with
  | nil =>
    obtain ⟨⟨rfl, -⟩, -⟩ : (text = next ∧ _) ∧ _ := by simpa [applySources] using h
    rfl
  | cons s ss ih =>
    obtain ⟨middle, m₁, hfirst, hothers⟩ := Working.outcome_bind_eq_ok.mp h
    obtain ⟨⟨last, rest⟩, m₂, hrest, hreturns⟩ := Working.outcome_bind_eq_ok.mp hothers
    obtain ⟨⟨rfl, -⟩, -⟩ : (last = next ∧ _) ∧ _ := by simpa using hreturns
    rw [callsOfSources, hfirst, applicationsOf_append, List.append_subset] at hcalls
    obtain ⟨n₁, hplainly, halike₁⟩ := plainly_of_applySource hsha hcalls.1 halike hfirst
    have hcompatible : n₁.compatible = n.compatible := by
      have hfold := r.compatible_foldl_plainly template (r.contributions (r.carriers n) template s) (text, n)
      rwa [hplainly] at hfold
    have hcarriers : r.carriers n₁ = r.carriers n := by rw [carriers, hcompatible, carriers]
    rw [List.flatMap_cons, List.foldl_append, hplainly, ← hcarriers]
    exact ih hcalls.2 halike₁ hrest

theorem content_customizeBy (hsha : Engine.CollisionFree calls) {sources : List Source} {base : String}
    {c : Customized}
    (hcalls : r.applicationsOf (r.callsOfSources template sources.reverse base m) ⊆ calls)
    (halike : r.Alike template calls m n)
    (h : Working.outcome (r.customizeBy sources template base) m = (.ok c, m')) :
    c.content = ((sources.reverse.flatMap (r.contributions (r.carriers n) template)).foldl
      (r.plainly template) (base, n)).1 := by
  obtain ⟨⟨content, changing⟩, m₁, hsources, hnoted⟩ := Working.outcome_bind_eq_ok.mp h
  obtain ⟨-, m₂, -, hreturns⟩ := Working.outcome_bind_eq_ok.mp hnoted
  obtain ⟨rfl, -⟩ : Customized.mk template content (Digest.sha256 base) changing = c ∧ _ := by
    simpa using hreturns
  exact plainly_of_applySources hsha hcalls halike hsources

end Simulation

/-! ## Templates -/

/-- The categories that a template passes through, highest first: those that are given, or else those that
the run works with. -/
def order (r : Run) (m : Memory) : Option (List Source) → List Source
  | some sources => sources
  | none => (Recalling.outcome (r.resolve none) m).1

/-- What the categories of a template contribute to it, lowest first. -/
def contributed (r : Run) (m : Memory) (sources : Option (List Source)) (template : String) :
    List Contribution :=
  (r.order m sources).reverse.flatMap (r.contributions (r.carriers m) template)

/-- Where digests do not collide on what a template's documents are applied to, the template comes out as if
no result were kept on the way. -/
theorem content_customize {sources : Option (List Source)} {base : String} {c : Customized}
    (hsha : Engine.CollisionFree (r.applications m (.one sources template base)))
    (h : Working.outcome (r.customize sources template base) m = (.ok c, m')) :
    c.content = ((r.contributed m sources template).foldl (r.plainly template) (base, m)).1 := by
  cases sources with
  | some sources => exact content_customizeBy hsha (List.Subset.refl _) (.refl _ m) h
  | none =>
    obtain ⟨hdocuments, hcarriers, hresults⟩ := looks_resolve (r := r) none m
    rw [customize, Working.outcome_bind, Working.outcome_recalling] at h
    exact content_customizeBy hsha (List.Subset.refl _)
      ⟨hdocuments, hcarriers, fun _ _ _ _ => congrArg _ hresults⟩ h

end Run

end TemplateRules
