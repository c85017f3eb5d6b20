import TemplateRules.Proofs.SkippingRun

/-!
# The work of a category

Whatever a category of sources does to a template, it does by its contributions: each is carried out on
the text that the one before has left, a full template takes the place of the text, and a rule document
is read and applied. What precedes them is that the categories of libraries find out which libraries the
run works with.

## Main definitions

* `Run.applyContribution`: one contribution, with the failures of the run
* `Run.applyContributions`: contributions one after the other

## Main results

* `Run.outcome_applySource`: a category does what its contributions do
-/

namespace TemplateRules.Run

variable {r : Run} {m : Memory} {s : Source} {template text : String}

/-- Carries out one contribution, with the failures of the run. -/
def applyContribution (r : Run) (template : String) (c : Contribution) (text : String) :
    Working String :=
  match c with
  | .full replacement => pure replacement
  | .rules s name rules => r.applyRules s template text name rules

/-- Carries out contributions, each on what the one before has left. -/
def applyContributions (r : Run) (template : String) (cs : List Contribution) (text : String) :
    Working String :=
  cs.foldlM (fun text c => r.applyContribution template c text) text

@[simp] theorem applyContributions_nil : r.applyContributions template [] text = pure text := rfl

theorem applyContributions_cons (c : Contribution) (cs : List Contribution) :
    r.applyContributions template (c :: cs) text =
      r.applyContribution template c text >>= r.applyContributions template cs := by
  rw [applyContributions, List.foldlM_cons]
  rfl

theorem outcome_applyContributions_singleton (c : Contribution) :
    Working.outcome (r.applyContributions template [c] text) m =
      Working.outcome (r.applyContribution template c text) m := by
  rw [applyContributions_cons, Working.outcome_bind]
  rcases Working.outcome (r.applyContribution template c text) m with ⟨_ | _, m'⟩ <;> rfl

theorem outcome_passOver {name : String} {f : Failure} (hf : ∀ defect, f ≠ .defect defect) :
    Working.outcome (passOver s name template text f) m = (.ok text, m) := by
  cases f with
  | defect d => exact absurd rfl (hf d)
  | _ => rfl

theorem outcome_compatible :
    Recalling.outcome r.compatible m = (r.carriers m, { m with compatible := some (r.carriers m) }) := by
  simp only [compatible, Recalling.outcome_bind, Recalling.outcome_get]
  obtain ⟨documents, compatible, results⟩ := m
  cases compatible <;> rfl

theorem applyLibraryDocuments_eq (ls : List Library) :
    r.applyLibraryDocuments template ls text =
      r.applyContributions template (r.contributions ls template .libraryCustomizations) text := by
  induction ls generalizing text with
  | nil => rfl
  | cons l ls ih =>
    simp only [applyLibraryDocuments, contributions, applyContributions] at ih ⊢
    cases h : l.documentFor? r.settings.generator template with
    | none => simp [h, ih]
    | some rules => simp [h, ih, applyContribution]

theorem outcome_applyLibraryTemplates (ls : List Library) :
    Working.outcome (r.applyLibraryTemplates template ls text) m =
      Working.outcome
        (r.applyContributions template (r.contributions ls template .libraryTemplates) text) m := by
  induction ls generalizing text with
  | nil => rfl
  | cons l ls ih =>
    rw [applyLibraryTemplates]
    cases h : (l.templatesFor r.settings.generator).lookup template with
    | none =>
      have hskip : r.contributions (l :: ls) template .libraryTemplates =
          r.contributions ls template .libraryTemplates := by simp [contributions, h]
      rw [hskip]
      exact ih
    | some replacement =>
      have hfull : r.contributions (l :: ls) template .libraryTemplates =
          .full replacement :: r.contributions ls template .libraryTemplates := by
        simp [contributions, h]
      rw [hfull, applyContributions_cons]
      simp only [Working.outcome_bind, Working.outcome_note]
      exact ih

theorem outcome_applyBuiltIn :
    Working.outcome (r.applyBuiltIn template text) m =
      Working.outcome (r.applyContributions template
        (r.contributions (r.carriers m) template .pluginCustomizations) text) m := by
  simp only [applyBuiltIn, contributions]
  split
  · rename_i h
    rw [h]
    rfl
  · rename_i key rules h
    rw [h]
    exact (outcome_applyContributions_singleton
      (.rules .pluginCustomizations (builtInName key) rules)).symm

theorem outcome_applyUserDocument :
    Working.outcome (r.applyUserDocument template text) m =
      Working.outcome (r.applyContributions template
        (r.contributions (r.carriers m) template .userCustomizations) text) m := by
  simp only [applyUserDocument, contributions, sourceText?]
  cases r.userDocument? template with
  | none => rfl
  | some path =>
    cases hread : r.readSource path with
    | error e =>
      simp only [Option.bind_some, hread]
      exact outcome_passOver (by simp)
    | ok rules =>
      simp only [Option.bind_some, hread]
      exact (outcome_applyContributions_singleton
        (.rules .userCustomizations path.text rules)).symm

theorem outcome_applyUserTemplate :
    Working.outcome (r.applyUserTemplate template text) m =
      Working.outcome (r.applyContributions template
        (r.contributions (r.carriers m) template .userTemplates) text) m := by
  simp only [applyUserTemplate, contributions]
  cases r.userTemplate? template with
  | none => rfl
  | some path =>
    simp only [Option.bind_some, sourceText?]
    cases hread : r.readSource path with
    | error e => simp only [Working.outcome_bind, Working.outcome_note]; rfl
    | ok replacement => simp only [Working.outcome_bind, Working.outcome_note]; rfl

/-- Finding out the libraries reads no documents and does not change which libraries there are. -/
theorem memoryAfter_spec : (r.memoryAfter m s).documents = m.documents ∧
    r.carriers (r.memoryAfter m s) = r.carriers m := by
  cases s <;> exact ⟨rfl, rfl⟩

/-- A category does what its contributions do, once it is known which libraries there are. -/
theorem outcome_applySource (s : Source) :
    Working.outcome (r.applySource s template text) m =
      Working.outcome (r.applyContributions template
        (r.contributions (r.carriers m) template s) text) (r.memoryAfter m s) := by
  cases s with
  | generator => rfl
  | pluginCustomizations => exact outcome_applyBuiltIn
  | libraryCustomizations =>
    simp only [applySource, Working.outcome_bind, Working.outcome_recalling, outcome_compatible]
    rw [applyLibraryDocuments_eq]
    rfl
  | libraryTemplates =>
    simp only [applySource, Working.outcome_bind, Working.outcome_recalling, outcome_compatible]
    exact outcome_applyLibraryTemplates _
  | userCustomizations => exact outcome_applyUserDocument
  | userTemplates => exact outcome_applyUserTemplate

end TemplateRules.Run
