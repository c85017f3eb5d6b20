import TemplateRules.Proofs.Contributions
import TemplateRules.Proofs.EngineOutcome
import TemplateRules.Proofs.Settling

/-!
# Bad documents are isolated

The run returns what the skipping run does, unless it comes across a document that escapes the
configuration errors; such a document, where its name is not known yet, ends the whole run. This is
shown for one document, and then for contributions, categories, templates and the run, each of which
settles because its parts do.

## Main results

* `Run.readAndApply_spec`: which documents end in a defect, and which are known afterwards
* `Run.settles_applySource`: a category does what it does in the skipping run
* `Run.customizeAll_isolates_iff`: when a run returns what the skipping run does
-/

namespace TemplateRules

/-! ## Documents -/

namespace Run

variable {r : Run} {m : Memory} {s : Source} {template text name rules : String}

theorem outcome_document : Working.outcome (r.document name rules) m =
    match m.documents.lookup name with
    | some d => (.ok d, m)
    | none => match RuleDocument.ofText r.settings.limit name rules with
      | .ok d => (.ok d, { m with documents := (name, d) :: m.documents })
      | .error f => (.error f, m) := by
  simp only [document, Working.outcome_bind, Working.outcome_get]
  cases m.documents.lookup name with
  | some d => rfl
  | none =>
    simp only [Working.outcome_bind, Working.outcome_attempting, RuleDocument.outcome_parse]
    cases RuleDocument.ofText r.settings.limit name rules <;> rfl

/-- Applying a document comes to what the engine returns, and keeps the results that the engine keeps. -/
theorem outcome_applyDocument (d : RuleDocument) :
    Working.outcome (r.applyDocument d s template text) m =
      match (Engine.apply r.settings.limit m.results text (some d) (r.context s template text)
          (some template)).outcome with
      | .ok (result, kept) => (.ok result, { m with results := kept })
      | .error f => (.error f, m) := by
  simp only [applyDocument, Working.outcome_bind, Working.outcome_get, Working.outcome_attempting]
  rcases (Engine.apply r.settings.limit m.results text (some d) (r.context s template text)
    (some template)).outcome with f | ⟨result, kept⟩ <;> rfl

/-- Applying a document leaves the documents and libraries of the memory alone, and ends in no
defect. -/
theorem applyDocument_spec (d : RuleDocument) {result : Except Failure String} {m' : Memory}
    (h : Working.outcome (r.applyDocument d s template text) m = (result, m')) :
    m'.documents = m.documents ∧ m'.compatible = m.compatible ∧
      ∀ defect, result ≠ .error (.defect defect) := by
  rw [outcome_applyDocument] at h
  rcases hout : (Engine.apply r.settings.limit m.results text (some d) (r.context s template text)
      (some template)).outcome with f | ⟨text', kept⟩
  · rw [hout] at h
    obtain ⟨rfl, rfl⟩ : .error f = result ∧ m = m' := by simpa using h
    refine ⟨rfl, rfl, fun defect hdefect => ?_⟩
    obtain rfl := Except.error.inj hdefect
    exact Engine.outcome_apply_ne_defect (some d) defect hout
  · rw [hout] at h
    obtain ⟨rfl, rfl⟩ : .ok text' = result ∧ { m with results := kept } = m' := by simpa using h
    exact ⟨rfl, rfl, by simp⟩

/-- Reading a document ends in a defect if the document stumbles, and otherwise the document is known
afterwards if it can be read. -/
theorem document_spec {result : Except Failure RuleDocument} {m' : Memory}
    (h : Working.outcome (r.document name rules) m = (result, m')) :
    ((∃ defect, result = .error (.defect defect)) ↔
      Stumbles r.settings.limit m [(name, rules)]) ∧
    (∀ n, m'.Knows n ↔ m.Knows n ∨ n = name ∧ Readable r.settings.limit n rules) ∧
    r.carriers m' = r.carriers m := by
  rw [outcome_document] at h
  rw [stumbles_singleton, ← @RuleDocument.ofText_eq_defect_iff r.settings.limit name rules]
  cases hknown : m.documents.lookup name with
  | some d =>
    rw [hknown] at h
    obtain ⟨rfl, rfl⟩ : .ok d = result ∧ m = m' := by simpa using h
    have hname : m.Knows name := Memory.knows_of_lookup hknown
    exact ⟨by simp [hname], fun n => ⟨.inl, fun hn => hn.elim id fun hread => hread.1 ▸ hname⟩, rfl⟩
  | none =>
    have hname : ¬ m.Knows name := by simp [Memory.Knows, hknown]
    rw [hknown] at h
    cases hread : RuleDocument.ofText r.settings.limit name rules with
    | error f =>
      rw [hread] at h
      obtain ⟨rfl, rfl⟩ : .error f = result ∧ m = m' := by simpa using h
      have hunreadable : ¬ Readable r.settings.limit name rules := by simp [Readable, hread]
      exact ⟨by simp [hname], fun n => ⟨.inl, fun hn => hn.elim id fun hread =>
        absurd (hread.1 ▸ hread.2) hunreadable⟩, rfl⟩
    | ok d =>
      rw [hread] at h
      obtain ⟨rfl, rfl⟩ : .ok d = result ∧ { m with documents := (name, d) :: m.documents } = m' := by
        simpa using h
      have hreadable : Readable r.settings.limit name rules := ⟨d, hread⟩
      refine ⟨by simp, fun n => ?_, rfl⟩
      rw [Memory.knows_store]
      exact or_congr_right ⟨fun hn => ⟨hn, hn ▸ hreadable⟩, And.left⟩

/-- Applying a document adds no defect to those of reading it, and forgets no document. The document is stored
before it is applied, so it is known even if applying it fails. -/
theorem readAndApply_spec {result : Except Failure String} {m' : Memory}
    (h : Working.outcome (r.readAndApply s template text name rules) m = (result, m')) :
    ((∃ defect, result = .error (.defect defect)) ↔
      Stumbles r.settings.limit m [(name, rules)]) ∧
    (∀ n, m'.Knows n ↔ m.Knows n ∨ n = name ∧ Readable r.settings.limit n rules) ∧
    r.carriers m' = r.carriers m := by
  rw [readAndApply, Working.outcome_bind] at h
  rcases hread : Working.outcome (r.document name rules) m with ⟨f | d, mid⟩
  · rw [hread] at h
    obtain ⟨rfl, rfl⟩ : .error f = result ∧ mid = m' := by simpa using h
    simpa using document_spec hread
  · rw [hread] at h
    obtain ⟨hdefect, hknows, hcarriers⟩ := document_spec hread
    obtain ⟨hdocuments, hcompatible, hne⟩ := applyDocument_spec d h
    refine ⟨?_, fun n => ?_, ?_⟩
    · rw [← hdefect]
      simp [hne]
    · rw [← hknows, Memory.Knows, hdocuments, Memory.Knows]
    · rw [← hcarriers, Run.carriers, hcompatible, Run.carriers]

/-! ## Contributions -/

theorem outcome_applyRules : Working.outcome (r.applyRules s template text name rules) m =
    match Working.outcome (r.readAndApply s template text name rules) m with
    | (.ok text, m) => (.ok text, m)
    | (.error f, m) => Working.outcome (passOver s name template text f) m := by
  rw [applyRules, Working.outcome_tryCatch]
  rcases h : Working.outcome (r.readAndApply s template text name rules) m with ⟨_ | _, m'⟩ <;>
    rw [← readAndApply, h]

theorem settles_applyRules :
    Settles r (r.applyRules s template text name rules) m [(name, rules)]
      (r.contribute template (text, m) (.rules s name rules)) := by
  rcases hout : Working.outcome (r.readAndApply s template text name rules) m with ⟨result, m'⟩
  obtain ⟨hdefect, hknows, hcarriers⟩ := readAndApply_spec hout
  have hrules := @outcome_applyRules r m s template text name rules
  rw [hout] at hrules
  have hcontribute : r.contribute template (text, m) (.rules s name rules) =
      (result.toOption.getD text, m') := by
    simp only [contribute, hout]
    cases result <;> rfl
  rw [hcontribute]
  refine ⟨fun h => ?_, fun h => ?_, by simpa using hknows, hcarriers⟩
  · cases result with
    | ok text' => exact hrules
    | error f =>
      rw [hrules]
      exact outcome_passOver fun defect hf => h (hdefect.mp ⟨defect, by rw [hf]⟩)
  · obtain ⟨defect, rfl⟩ := hdefect.mpr h
    exact ⟨defect, by rw [hrules]; rfl⟩

theorem settles_applyContribution (c : Contribution) :
    Settles r (r.applyContribution template c text) m c.document?.toList
      (r.contribute template (text, m) c) := by
  cases c with
  | full replacement => exact .ofPure replacement
  | rules s name rules => exact settles_applyRules

/-- Contributions settle one after the other. -/
theorem settles_applyContributions (cs : List Contribution) (before : String × Memory) :
    Settles r (r.applyContributions template cs before.1) before.2
      (cs.filterMap Contribution.document?) (cs.foldl (r.contribute template) before) := by
  induction cs generalizing before with
  | nil => exact .ofPure before.1
  | cons c cs ih =>
    have hdocuments : (c :: cs).filterMap Contribution.document? =
        c.document?.toList ++ cs.filterMap Contribution.document? := by
      cases h : c.document? <;> simp [h]
    rw [applyContributions_cons, hdocuments]
    exact (settles_applyContribution c).bind (ih _)

/-- A category does to a template what it does in the skipping run, unless one of its documents
stumbles. -/
theorem settles_applySource (s : Source) :
    Settles r (r.applySource s template text) m
      ((r.contributions (r.carriers m) template s).filterMap Contribution.document?)
      (r.skippingSource s template (text, m)) := by
  obtain ⟨hdocuments, hcarriers⟩ := @memoryAfter_spec r m s
  exact (settles_applyContributions _ (text, r.memoryAfter m s)).startingFrom hdocuments hcarriers
    (outcome_applySource s)

/-! ## Templates -/

/-- Categories settle one after the other, on the libraries that the first of them found. -/
theorem settles_applySources (ss : List Source) :
    Settles r (r.applySources template ss text) m (r.documentsFor (r.carriers m) template ss)
      (r.skippingSources template ss (text, m)) := by
  induction ss generalizing text m with
  | nil => exact .ofPure (text, [])
  | cons s ss ih =>
    have hsource := @settles_applySource r m template text s
    have hrest := @ih (r.skippingSource s template (text, m)).2 (r.skippingSource s template (text, m)).1
    rw [hsource.carriers] at hrest
    exact hsource.bind (hrest.map _)

theorem settles_customizeBy (sources : List Source) (base : String) :
    Settles r (r.customizeBy sources template base) m
      (r.documentsFor (r.carriers m) template sources.reverse)
      (r.skippingOne sources template base m) := by
  have hsources := @settles_applySources r m template base sources.reverse
  refine (hsources.map fun one => Customized.mk template one.1 (Digest.sha256 base) one.2).congr ?_
  rw [customizeBy, Working.outcome_bind, Working.outcome_bind]
  rcases Working.outcome (r.applySources template sources.reverse base) m with ⟨_ | one, m'⟩
  · rfl
  · simp only [Working.outcome_bind, Working.outcome_note]

theorem settles_customizeEach (sources : List Source) (bases : Table String) :
    Settles r (r.customizeEach sources bases) m
      (bases.flatMap fun (template, _) => r.documentsFor (r.carriers m) template sources.reverse)
      (r.skippingEach sources bases m) := by
  induction bases generalizing m with
  | nil => exact .ofPure []
  | cons e rest ih =>
    obtain ⟨template, base⟩ := e
    have hone := @settles_customizeBy r m template sources base
    have hrest := @ih (r.skippingOne sources template base m).2
    rw [hone.carriers] at hrest
    exact hone.bind (hrest.map _)

/-! ## Resolution -/

/-- Resolving the categories reads no documents, finds the same libraries and keeps no results. -/
def Looks (r : Run) {α : Type} (w : Recalling α) : Prop :=
  ∀ m, (Recalling.outcome w m).2.documents = m.documents ∧
    r.carriers (Recalling.outcome w m).2 = r.carriers m ∧
    (Recalling.outcome w m).2.results = m.results

theorem Looks.pure {α : Type} (a : α) : r.Looks (Pure.pure a) := fun _ => ⟨rfl, rfl, rfl⟩

theorem Looks.note (level : Level) (text : String) : r.Looks (Source.note level text) :=
  fun _ => ⟨rfl, rfl, rfl⟩

theorem Looks.bind {α β : Type} {w : Recalling α} {f : α → Recalling β} (hw : r.Looks w)
    (hf : ∀ a, r.Looks (f a)) : r.Looks (w >>= f) := by
  intro m
  rw [Recalling.outcome_bind]
  obtain ⟨hdocuments, hcarriers, hresults⟩ := hw m
  obtain ⟨hdocuments', hcarriers', hresults'⟩ := hf (Recalling.outcome w m).1 (Recalling.outcome w m).2
  exact ⟨hdocuments'.trans hdocuments, hcarriers'.trans hcarriers, hresults'.trans hresults⟩

theorem Looks.foldlM {α β : Type} {f : α → β → Recalling α} (hf : ∀ a b, r.Looks (f a b))
    (bs : List β) (a : α) : r.Looks (bs.foldlM f a) := by
  induction bs generalizing a with
  | nil => exact .pure a
  | cons b bs ih =>
    rw [List.foldlM_cons]
    exact (hf a b).bind fun a => ih a

theorem looks_availability (s : Source) : r.Looks (r.availability s) := by
  have hcompatible : r.Looks r.compatible := fun m => by
    rw [outcome_compatible]
    exact ⟨rfl, rfl, rfl⟩
  cases s with
  | libraryTemplates => exact hcompatible.bind fun _ => .pure _
  | libraryCustomizations => exact hcompatible.bind fun _ => .pure _
  | _ => exact .pure _

theorem looks_consider (found : List Source) (requested : String) :
    r.Looks (Source.consider r.availability found requested) := by
  rw [Source.consider]
  split
  · exact (Looks.note _ _).bind fun _ => .pure _
  · split
    · exact .pure _
    · refine (looks_availability _).bind fun a => ?_
      split
      · exact (Looks.note _ _).bind fun _ => .pure _
      · exact (Looks.note _ _).bind fun _ => .pure _

theorem looks_resolve (requested : Option (List String)) : r.Looks (r.resolve requested) := by
  rw [resolve, Source.resolve]
  refine (Looks.foldlM looks_consider _ _).bind fun found => ?_
  split
  · exact (Looks.note _ _).bind fun _ => .pure _
  · exact .pure _

/-! ## The run -/

theorem settles_customizeAll (bases : Table String) :
    Settles r (r.customizeAll bases) m (r.consulted bases m) (r.skipping bases m) := by
  obtain ⟨hdocuments, hcarriers, -⟩ := @looks_resolve r none m
  have hresolve : Settles r (recalling (r.resolve none)) m [] (Recalling.outcome (r.resolve none) m) :=
    .ofReturns rfl hdocuments hcarriers
  have heach := @settles_customizeEach r (Recalling.outcome (r.resolve none) m).2
    (Recalling.outcome (r.resolve none) m).1 bases
  rw [hcarriers] at heach
  refine (hresolve.bind (f := fun sources => r.customizeEach sources bases) heach).congr ?_
  rw [customizeAll, Working.outcome_bind, Working.outcome_bind]
  simp only [Working.outcome_recalling, Working.outcome_bind, Working.outcome_note]
  rcases Working.outcome (r.customizeEach _ bases) _ with ⟨_ | outcomes, m'⟩ <;> rfl

/-- **Bad documents are isolated, unless one of them escapes.** From every memory, a run returns an
outcome for every template in which each document that cannot be read or applied has left the text as it
was, exactly if the documents that it consults do not stumble: none of them escapes the configuration
errors at a time when no document of its name is known. -/
theorem customizeAll_isolates_iff (r : Run) (bases : Table String) (m : Memory) :
    (∃ m', Working.outcome (r.customizeAll bases) m = (.ok (r.skipping bases m).1, m')) ↔
      ¬ Stumbles r.settings.limit m (r.consulted bases m) := by
  have hrun := @settles_customizeAll r m bases
  constructor
  · rintro ⟨m', hout⟩ hstumbles
    obtain ⟨d, hd⟩ := hrun.fails hstumbles
    rw [hout] at hd
    simp at hd
  · exact fun h => ⟨_, hrun.returns h⟩

/-- A run whose only document has a hexadecimal prefix without a digit. -/
def ofBarePrefix : Run where
  settings := {
    generator := Settings.defaultGenerator
    generatorVersion := none
    toolVersion := Settings.currentVersion
    sources := Source.defaultNames
    templates := none
    documents := none
    properties := []
    limit := RuleDocument.defaultLimit
    debug := false }
  libraries := []
  builtIn := [("spring/t.mustache.yaml", "a: 0x_")]
  environment := []
  files := ⟨[], []⟩

/-- The document is not passed over: it ends the run. -/
theorem customizeAll_ofBarePrefix_fails :
    ¬ ∃ outcomes m', Working.outcome (ofBarePrefix.customizeAll [("t.mustache", "x")]) .empty =
      (.ok outcomes, m') := by
  have hdefect : failure? (Working.outcome (ofBarePrefix.customizeAll [("t.mustache", "x")])
      .empty).1 = some (.defect (.integer 16 "")) := by
    decide +kernel
  rintro ⟨outcomes, m', hout⟩
  rw [hout] at hdefect
  simp [failure?] at hdefect

end Run

end TemplateRules
