import Mathlib.Data.List.TakeWhile
import TemplateRules.Proofs.Agreement
import TemplateRules.Proofs.ConditionMeaning
import TemplateRules.Proofs.HostTexts

/-!
# The names that a document mentions

A document looks up properties and variables by the names that its conditions mention: in a specification
of a property or a variable the name is what stands before the first `=`, and the type of the build is
looked up under two names of its own. Under all other names contexts may hold what they like. Nothing comes
of the difference but other records and, in the wording of failures, another name of the template; unless
something there has no bytes, for everything in a context goes into the key of a result, mentioned or not.

## Main definitions

* `Text.specName`: the name in a specification
* `ConditionSet.Has`, `RuleDocument.Has`: the clauses of condition sets and documents, at any depth
* `RuleDocument.ReadsProperty`, `RuleDocument.ReadsVariable`: the names that a document looks up
* `Context.AgreesFor`, `HostContext.AgreesFor`: contexts that agree on what a document looks up

## Main results

* `Clauses.Hold.of_agreesOn`, `ConditionSet.holds_congr`: conditions hold in both contexts or in neither
* `Engine.alike_apply`: contexts that agree on what a document looks up have the same result, or fail for
  the same reason
* `Engine.alike_applyGiven_iff`: contexts that the host gives do so unless just one of them has bytes
-/

namespace TemplateRules

open Text

/-! ## Names in specifications -/

/-- The name in a specification: what stands before the first `=`, without the blanks at its ends. -/
def Text.specName (spec : String) : String :=
  strip (String.ofList (spec.toList.takeWhile (· != '=')))

theorem Text.specName_of_notMem {name : String} (h : '=' ∉ name.toList) : specName name = strip name := by
  rw [specName, List.takeWhile_eq_self_iff.mpr (bne_of_notMem h), String.ofList_toList]

theorem Text.specName_append {name : String} (h : '=' ∉ name.toList) (expected : String) :
    specName (name ++ "=" ++ expected) = strip name := by
  have hlist : (name ++ "=" ++ expected).toList = name.toList ++ '=' :: expected.toList := by simp
  rw [specName, hlist, List.takeWhile_append_of_pos (bne_of_notMem h)]
  simp

/-- Of a table a specification looks at one name only. -/
theorem Table.Satisfies.of_lookup {values values' : Table String} {nonempty : Bool} {spec : String}
    (h : values.Satisfies nonempty spec)
    (hlookup : values.lookup (specName spec) = values'.lookup (specName spec)) :
    values'.Satisfies nonempty spec := by
  cases h with
  | value plain held =>
    rw [specName_append plain] at hlookup
    exact .value plain (hlookup ▸ held)
  | name given plain held filled on =>
    rw [specName_of_notMem plain] at hlookup
    exact .name given plain (hlookup ▸ held) filled on

/-! ## Clauses of a document -/

namespace ConditionSet

/-- Plain clauses stand in a condition set, be it under `allOf`, `anyOf` and `not`. -/
inductive Has (k : Clauses) : ConditionSet → Prop
  | here {allOf anyOf : Option (List ConditionSet)} {negated : Option ConditionSet} :
      Has k (.mk k allOf anyOf negated)
  | allOf {clauses : Clauses} {cs : List ConditionSet} {anyOf : Option (List ConditionSet)}
      {negated : Option ConditionSet} {c : ConditionSet} (mem : c ∈ cs) (inner : Has k c) :
      Has k (.mk clauses (some cs) anyOf negated)
  | anyOf {clauses : Clauses} {allOf : Option (List ConditionSet)} {cs : List ConditionSet}
      {negated : Option ConditionSet} {c : ConditionSet} (mem : c ∈ cs) (inner : Has k c) :
      Has k (.mk clauses allOf (some cs) negated)
  | negated {clauses : Clauses} {allOf anyOf : Option (List ConditionSet)} {c : ConditionSet}
      (inner : Has k c) : Has k (.mk clauses allOf anyOf (some c))

theorem has_mk {k clauses : Clauses} {allOf anyOf : Option (List ConditionSet)}
    {negated : Option ConditionSet} : (mk clauses allOf anyOf negated).Has k ↔
      k = clauses ∨ (∃ cs, allOf = some cs ∧ ∃ c ∈ cs, c.Has k) ∨
        (∃ cs, anyOf = some cs ∧ ∃ c ∈ cs, c.Has k) ∨ ∃ c, negated = some c ∧ c.Has k := by
  constructor
  · intro h
    cases h with
    | here => exact .inl rfl
    | allOf mem inner => exact .inr (.inl ⟨_, rfl, _, mem, inner⟩)
    | anyOf mem inner => exact .inr (.inr (.inl ⟨_, rfl, _, mem, inner⟩))
    | negated inner => exact .inr (.inr (.inr ⟨_, rfl, inner⟩))
  · rintro (rfl | ⟨_, rfl, _, mem, inner⟩ | ⟨_, rfl, _, mem, inner⟩ | ⟨_, rfl, inner⟩)
    · exact .here
    · exact .allOf mem inner
    · exact .anyOf mem inner
    · exact .negated inner

/-- Condition sets mean the same in two contexts if their clauses do. Nested sets have their clauses in the
whole set, which passes the hypothesis on to them. -/
theorem holds_congr {x y : Context} : ∀ c : ConditionSet,
    (∀ k, c.Has k → (k.Hold x ↔ k.Hold y)) → (c.Holds x ↔ c.Holds y)
  | .mk clauses allOf anyOf negated, h => by
    have hall : ∀ cs, allOf = some cs → ∀ c ∈ cs, (c.Holds x ↔ c.Holds y) := fun cs hcs c hc =>
      holds_congr c fun k hk => h k (hcs ▸ .allOf hc hk)
    have hany : ∀ cs, anyOf = some cs → ∀ c ∈ cs, (c.Holds x ↔ c.Holds y) := fun cs hcs c hc =>
      holds_congr c fun k hk => h k (hcs ▸ .anyOf hc hk)
    have hnot : ∀ c, negated = some c → (c.Holds x ↔ c.Holds y) := fun c hc =>
      holds_congr c fun k hk => h k (hc ▸ .negated hk)
    rw [holds_mk, holds_mk]
    refine and_congr (h clauses .here) (and_congr ?_ (and_congr ?_ ?_))
    · exact forall₂_congr fun cs hcs => forall₂_congr fun c hc => hall cs hcs c hc
    · exact forall₂_congr fun cs hcs => exists_congr fun c => and_congr_right fun hc => hany cs hcs c hc
    · exact forall₂_congr fun c hc => not_congr (hnot c hc)
termination_by c => sizeOf c
decreasing_by
  · subst hcs
    have := List.sizeOf_lt_of_mem hc
    simp
    omega
  · subst hcs
    have := List.sizeOf_lt_of_mem hc
    simp
    omega
  · subst hc
    simp
    omega

end ConditionSet

namespace RuleDocument

/-- Plain clauses stand in the conditions of a document or of one of its rules. -/
def Has (d : RuleDocument) (k : Clauses) : Prop := ∃ c, some c ∈ d.gates ∧ c.Has k

/-- The names under which a document looks up properties. -/
inductive ReadsProperty (d : RuleDocument) : String → Prop
  | named {k : Clauses} {spec : String} (has : d.Has k) (clause : k.projectProperty = some spec) :
      ReadsProperty d (specName spec)
  | buildType {k : Clauses} {type : String} (has : d.Has k) (clause : k.buildType = some type) :
      ReadsProperty d "buildType"

/-- The names under which a document looks up variables. -/
inductive ReadsVariable (d : RuleDocument) : String → Prop
  | named {k : Clauses} {spec : String} (has : d.Has k) (clause : k.environmentVariable = some spec) :
      ReadsVariable d (specName spec)
  | buildType {k : Clauses} {type : String} (has : d.Has k) (clause : k.buildType = some type) :
      ReadsVariable d "BUILD_TYPE"

end RuleDocument

/-! ## Contexts that agree for a document -/

/-- Contexts with the same version, snapshot and detector and with the same value, or none, under every
name that a document looks up. -/
structure Context.AgreesFor (d : RuleDocument) (x y : Context) : Prop where
  generatorVersion : x.generatorVersion = y.generatorVersion
  template : x.template = y.template
  detector : x.detector = y.detector
  properties : ∀ name, d.ReadsProperty name → x.properties.lookup name = y.properties.lookup name
  environment : ∀ name, d.ReadsVariable name → x.environment.lookup name = y.environment.lookup name

namespace Context.AgreesFor

variable {d : RuleDocument} {x y : Context}

theorem symm (h : x.AgreesFor d y) : y.AgreesFor d x where
  generatorVersion := h.generatorVersion.symm
  template := h.template.symm
  detector := h.detector.symm
  properties name hname := (h.properties name hname).symm
  environment name hname := (h.environment name hname).symm

theorem hold (h : x.AgreesFor d y) {k : Clauses} (hk : d.Has k) (hold : k.Hold x) : k.Hold y := by
  have hruns : x.RunsOn = y.RunsOn := by
    funext written
    rw [Context.RunsOn, Context.RunsOn, h.generatorVersion]
  have hshows : x.Shows = y.Shows := by
    funext probe
    rw [Context.Shows, Context.Shows, h.template]
  have hexhibits : x.Exhibits = y.Exhibits := by
    funext feature
    rw [Context.Exhibits, Context.Exhibits, h.template, h.detector]
  obtain ⟨h₁, h₂, h₃, h₄, h₅, h₆, h₇, h₈, hproperty, hvariable, hbuild⟩ := hold
  rw [hruns] at h₁
  rw [hshows] at h₂ h₃ h₄ h₅
  rw [hexhibits] at h₆ h₇ h₈
  refine ⟨h₁, h₂, h₃, h₄, h₅, h₆, h₇, h₈, fun spec hspec => ?_, fun spec hspec => ?_, fun t ht => ?_⟩
  · exact (hproperty spec hspec).of_lookup (h.properties _ (.named hk hspec))
  · exact (hvariable spec hspec).of_lookup (h.environment _ (.named hk hspec))
  · rw [← hbuild t ht, Context.buildType?, Context.buildType?, h.properties _ (.buildType hk ht),
      h.environment _ (.buildType hk ht)]

/-- Contexts that agree for a document meet the same of its conditions. -/
theorem meets_value_eq (h : x.AgreesFor d y) {conditions : Option ConditionSet}
    (hmem : conditions ∈ d.gates) : (x.meets conditions).value = (y.meets conditions).value := by
  rw [Bool.eq_iff_iff, Context.meets_iff, Context.meets_iff]
  refine forall₂_congr fun c hc => c.holds_congr fun k hk => ?_
  have hhas : d.Has k := ⟨c, hc ▸ hmem, hk⟩
  exact ⟨h.hold hhas, h.symm.hold hhas⟩

/-- Passes in contexts that agree for a document come to the same verdict. -/
theorem verdict_compute (h : x.AgreesFor d y) (limit : Int) (template name name' : String) :
    (Engine.compute limit template d x name).verdict =
      (Engine.compute limit template d y name').verdict := by
  have hpasses : Pass.AgreesOn ⟨name, limit, x, d.partials⟩ ⟨name', limit, y, d.partials⟩ d.gates :=
    ⟨rfl, fun _ hmem => h.meets_value_eq hmem, fun _ => rfl⟩
  have hself : d.Agrees d := ⟨rfl, rfl, rfl, rfl, rfl, rfl, fun _ => rfl⟩
  rw [Engine.compute, Engine.compute, Engine.verdict_run, Engine.verdict_run,
    hpasses.verdict_applyDocument hself template]

end Context.AgreesFor

/-! ## Contexts of the host -/

/-- Contexts of the host with the same version, snapshot and detector and with the same value, or none, under
every name that a document looks up. -/
structure HostContext.AgreesFor (d : RuleDocument) (x y : HostContext) : Prop where
  generatorVersion : x.generatorVersion = y.generatorVersion
  template : x.template = y.template
  detector : x.detector = y.detector
  properties : ∀ name, d.ReadsProperty name →
    x.properties.lookup (.ofString name) = y.properties.lookup (.ofString name)
  environment : ∀ name, d.ReadsVariable name →
    x.environment.lookup (.ofString name) = y.environment.lookup (.ofString name)

namespace HostContext

theorem lookup_map_ofEntry (entries : Table String) (name : String) :
    (entries.map ofEntry).lookup (.ofString name) = (entries.lookup name).map .ofString := by
  induction entries with
  | nil => rfl
  | cons e entries ih =>
    have hbeq : (HostText.ofString name == .ofString e.1) = (name == e.1) := by
      rw [Bool.eq_iff_iff, beq_iff_eq, beq_iff_eq, HostText.ofString_inj]
    rw [List.map_cons, ofEntry, List.lookup_cons, hbeq, List.lookup_cons, ih]
    cases name == e.1 <;> rfl

theorem map_ofString_inj {o o' : Option String} :
    o.map HostText.ofString = o'.map HostText.ofString ↔ o = o' :=
  (Option.map_injective fun _ _ => HostText.ofString_inj.mp).eq_iff

/-- Contexts of characters agree for a document as the host gives them and as they are. -/
theorem AgreesFor.ofContext {d : RuleDocument} {c c' : Context}
    (h : (ofContext c).AgreesFor d (ofContext c')) : c.AgreesFor d c' where
  generatorVersion := map_ofString_inj.mp h.generatorVersion
  template := map_ofString_inj.mp h.template
  detector := h.detector
  properties name hname := by
    have heq := h.properties name hname
    rwa [HostContext.ofContext, HostContext.ofContext, lookup_map_ofEntry, lookup_map_ofEntry,
      map_ofString_inj] at heq
  environment name hname := by
    have heq := h.environment name hname
    rwa [HostContext.ofContext, HostContext.ofContext, lookup_map_ofEntry, lookup_map_ofEntry,
      map_ofString_inj] at heq

end HostContext

/-! ## Applying a document -/

namespace Engine

/-- Two applications come to the same: both return the same text, or both fail for the same reason. -/
def Alike {α : Type} (a b : Attempt (α × Results)) : Prop :=
  (∃ text kept kept', a.outcome = .ok (text, kept) ∧ b.outcome = .ok (text, kept')) ∨
    ∃ e e', a.outcome = .error e ∧ b.outcome = .error e' ∧ e.unnamed = e'.unnamed

variable {d : RuleDocument}

/-- Applied in two contexts that agree on what it looks up, under whatever names of the template and with
nothing kept, a document returns the same text or fails for the same reason. -/
theorem alike_apply {c c' : Context} (h : c.AgreesFor d c') (limit : Int) (template : String)
    (given given' : Option String) :
    Alike (apply limit .empty template (some d) c given)
      (apply limit .empty template (some d) c' given') := by
  have hverdict := h.verdict_compute limit template (c.templateName given) (c'.templateName given')
  rw [Alike, outcome_apply_empty, outcome_apply_empty]
  rw [Attempt.verdict, Attempt.verdict] at hverdict
  cases hc : (compute limit template d c (c.templateName given)).outcome with
  | ok text =>
    cases hc' : (compute limit template d c' (c'.templateName given')).outcome with
    | ok text' =>
      obtain rfl : text = text' := by simpa [hc, hc', Except.mapError] using hverdict
      exact .inl ⟨text, _, _, rfl, rfl⟩
    | error e' => simp [hc, hc', Except.mapError] at hverdict
  | error e =>
    cases hc' : (compute limit template d c' (c'.templateName given')).outcome with
    | ok text' => simp [hc, hc', Except.mapError] at hverdict
    | error e' => exact .inr ⟨e, e', rfl, rfl, by simpa [hc, hc', Except.mapError] using hverdict⟩

theorem Alike.applyGiven {limit : Int} {s : String} {c c' : Context} {given given' : Option String}
    (h : Alike (apply limit .empty s (some d) c given) (apply limit .empty s (some d) c' given')) :
    Alike (applyGiven limit .empty (.ofString s) (some d) (.ofContext c) given)
      (applyGiven limit .empty (.ofString s) (some d) (.ofContext c') given') := by
  rw [Alike, outcome_applyGiven_ofString, outcome_applyGiven_ofString]
  rcases h with ⟨text, kept, kept', hc, hc'⟩ | ⟨e, e', hc, hc', hsame⟩
  · exact .inl ⟨.ofString text, kept, kept', by rw [hc]; rfl, by rw [hc']; rfl⟩
  · exact .inr ⟨e, e', by rw [hc]; rfl, by rw [hc']; rfl, hsame⟩

/-- Nothing that is done with characters fails as a text without bytes does. -/
theorem not_alike_of_outcome_eq_surrogates {limit : Int} {s : String} {c : Context} {given : Option String}
    {b : Attempt (HostText × Results)} (hb : b.outcome = .error (.defect .surrogates)) :
    ¬ Alike (applyGiven limit .empty (.ofString s) (some d) (.ofContext c) given) b := by
  rw [Alike, outcome_applyGiven_ofString, hb]
  rintro (⟨_, _, _, -, hok⟩ | ⟨e, e', he, he', hsame⟩)
  · simp at hok
  · obtain rfl := Except.error.inj he'
    have hdefect : e = .defect .surrogates := by cases e <;> simp_all [Failure.unnamed]
    exact outcome_apply_ne_defect (some d) _ (hdefect ▸ map_eq_error.mp he)

theorem Alike.symm {α : Type} {a b : Attempt (α × Results)} (h : Alike a b) : Alike b a := by
  rcases h with ⟨text, kept, kept', ha, hb⟩ | ⟨e, e', ha, hb, hsame⟩
  · exact .inl ⟨text, kept', kept, hb, ha⟩
  · exact .inr ⟨e', e, hb, ha, hsame.symm⟩

/-- **A document depends on nothing that it does not mention, unless that has no bytes.** In two contexts
that agree on what it looks up, under whatever names of the template and with nothing kept, a document
returns the same text or fails for the same reason, if there is a surrogate in both contexts, in none of
them, or in the template; but if there is one in just one of the contexts, then that one ends in a defect and
the other one does not. So a value under a name that no condition mentions, be it `debug` or `templateName`,
makes no difference to the text as long as it is one of characters. -/
theorem alike_applyGiven_iff {x y : HostContext} (h : x.AgreesFor d y) (limit : Int) (template : HostText)
    (given given' : Option String) :
    Alike (applyGiven limit .empty template (some d) x given)
        (applyGiven limit .empty template (some d) y given') ↔
      (template.HasBytes → (x.HasBytes ↔ y.HasBytes)) := by
  have hnone : ∀ {z : HostContext} {name : Option String}, ¬ (template.HasBytes ∧ z.HasBytes) →
      (applyGiven limit .empty template (some d) z name).outcome = .error (.defect .surrogates) :=
    outcome_applyGiven_of_not_hasBytes
  have hboth : ¬ (template.HasBytes ∧ x.HasBytes) → ¬ (template.HasBytes ∧ y.HasBytes) →
      Alike (applyGiven limit .empty template (some d) x given)
        (applyGiven limit .empty template (some d) y given') := fun hx hy =>
    .inr ⟨_, _, hnone hx, hnone hy, rfl⟩
  by_cases htemplate : template.HasBytes
  case neg => exact iff_of_true (hboth (mt And.left htemplate) (mt And.left htemplate)) fun h => absurd h htemplate
  obtain ⟨s, rfl⟩ := HostText.hasBytes_iff.mp htemplate
  simp only [htemplate, true_implies, true_and] at hnone hboth ⊢
  by_cases hx : x.HasBytes
  · obtain ⟨c, rfl⟩ := HostContext.hasBytes_iff.mp hx
    by_cases hy : y.HasBytes
    · obtain ⟨c', rfl⟩ := HostContext.hasBytes_iff.mp hy
      exact iff_of_true (alike_apply h.ofContext limit s given given').applyGiven (iff_of_true hx hy)
    · exact iff_of_false (not_alike_of_outcome_eq_surrogates (hnone hy)) fun hiff => hy (hiff.mp hx)
  · by_cases hy : y.HasBytes
    · obtain ⟨c', rfl⟩ := HostContext.hasBytes_iff.mp hy
      exact iff_of_false (fun hsame => not_alike_of_outcome_eq_surrogates (hnone hx) hsame.symm) fun hiff =>
        hx (hiff.mpr hy)
    · exact iff_of_true (hboth hx hy) (iff_of_false hx hy)

/-- That a property is as a specification asks. -/
def withProperty (spec : String) : ConditionSet :=
  .mk ⟨none, none, none, none, none, none, none, none, some spec, none, none⟩ none none none

/-- That the build is of a type. -/
def ofBuildType (type : String) : ConditionSet :=
  .mk ⟨none, none, none, none, none, none, none, none, none, none, some type⟩ none none none

/-- That none of some condition sets holds. -/
def noneOf (cs : List ConditionSet) : ConditionSet :=
  .mk ⟨none, none, none, none, none, none, none, none, none, none, none⟩ none none
    (some (.mk ⟨none, none, none, none, none, none, none, none, none, none, none⟩ none (some cs) none))

/-- A document that asks for the language and the type of the build in a fallback of a fallback. -/
def picksLanguage : RuleDocument where
  metadata := none
  conditions := none
  insertions := []
  replacements := []
  smartReplacements := []
  smartInsertions := [⟨some "after_package", none, "!", some (withProperty "lang = go"),
    [⟨some "a", none, none, "?", some (noneOf [withProperty "lang=java", ofBuildType "debug"])⟩]⟩]
  partials := []

/-- A context of characters with some properties. -/
def propertiesContext (properties : Table String) : Context :=
  ⟨none, some "ab", properties, [("BUILD_TYPE", "release")], .markers⟩

theorem eq_of_readsProperty_picksLanguage {name : String} (h : picksLanguage.ReadsProperty name) :
    name = "lang" ∨ name = "buildType" := by
  cases h with
  | buildType => exact .inr rfl
  | named has clause =>
    obtain ⟨c, hc, hk⟩ := has
    simp only [RuleDocument.gates, picksLanguage] at hc
    rcases (by simpa using hc : c = withProperty "lang = go" ∨ c = noneOf _) with rfl | rfl
    · simp [withProperty, ConditionSet.has_mk] at hk
      subst hk
      obtain rfl := Option.some.inj clause
      decide
    · simp [noneOf, withProperty, ofBuildType, ConditionSet.has_mk] at hk
      rcases hk with rfl | rfl | rfl | rfl <;> simp at clause
      subst clause
      decide

theorem eq_of_readsVariable_picksLanguage {name : String} (h : picksLanguage.ReadsVariable name) :
    name = "BUILD_TYPE" := by
  cases h with
  | buildType => rfl
  | named has clause =>
    obtain ⟨c, hc, hk⟩ := has
    simp only [RuleDocument.gates, picksLanguage] at hc
    rcases (by simpa using hc : c = withProperty "lang = go" ∨ c = noneOf _) with rfl | rfl
    · simp [withProperty, ConditionSet.has_mk] at hk
      subst hk
      simp at clause
    · simp [noneOf, withProperty, ofBuildType, ConditionSet.has_mk] at hk
      rcases hk with rfl | rfl | rfl | rfl <;> simp at clause

theorem withSurrogate_agreesFor (properties : Table String) :
    (HostContext.ofContext (propertiesContext properties)).AgreesFor picksLanguage
      (HostContext.withSurrogate (.ofContext (propertiesContext properties))) := by
  refine ⟨rfl, rfl, rfl, fun name _ => rfl, fun name hname => ?_⟩
  rw [eq_of_readsVariable_picksLanguage hname]
  simp [HostContext.withSurrogate, HostContext.ofContext, HostContext.ofEntry, propertiesContext]

theorem alike_applyGiven_picksLanguage :
    (HostContext.ofContext (propertiesContext [("lang", "rust")])).AgreesFor picksLanguage
        (.ofContext (propertiesContext [("templateName", "t"), ("debug", "true"), ("lang", "rust")])) ∧
      (∃ kept, (applyGiven 8 .empty (.ofString "ab") (some picksLanguage)
        (.ofContext (propertiesContext [("lang", "rust")])) none).outcome = .ok (.ofString "a?b", kept)) ∧
      Alike (applyGiven 8 .empty (.ofString "ab") (some picksLanguage)
          (.ofContext (propertiesContext [("lang", "rust")])) none)
        (applyGiven 8 .empty (.ofString "ab") (some picksLanguage) (.ofContext
          (propertiesContext [("templateName", "t"), ("debug", "true"), ("lang", "rust")])) none) ∧
      ¬ Alike (applyGiven 8 .empty (.ofString "ab") (some picksLanguage)
          (.ofContext (propertiesContext [("lang", "rust")])) none)
        (applyGiven 8 .empty (.ofString "ab") (some picksLanguage)
          (HostContext.withSurrogate (.ofContext (propertiesContext [("lang", "rust")]))) none) := by
  have hagrees : (HostContext.ofContext (propertiesContext [("lang", "rust")])).AgreesFor picksLanguage
      (.ofContext (propertiesContext [("templateName", "t"), ("debug", "true"), ("lang", "rust")])) := by
    refine ⟨rfl, rfl, rfl, fun name hname => ?_, fun name _ => rfl⟩
    rw [HostContext.ofContext, HostContext.ofContext, HostContext.lookup_map_ofEntry,
      HostContext.lookup_map_ofEntry, HostContext.map_ofString_inj]
    rcases eq_of_readsProperty_picksLanguage hname with rfl | rfl <;> decide
  obtain ⟨kept, happly⟩ : ∃ kept, (apply 8 .empty "ab" (some picksLanguage)
      (propertiesContext [("lang", "rust")]) none).outcome = .ok ("a?b", kept) := ⟨_, rfl⟩
  refine ⟨hagrees, ⟨kept, by rw [outcome_applyGiven_ofString, happly]; rfl⟩, ?_, ?_⟩
  · exact (alike_applyGiven_iff hagrees 8 (.ofString "ab") none none).mpr fun _ => by simp
  · intro halike
    have hiff := (alike_applyGiven_iff (withSurrogate_agreesFor _) 8 (.ofString "ab") none none).mp halike
    exact HostContext.not_hasBytes_withSurrogate _ ((hiff (by simp)).mp (by simp))

/-- A variable that the document does not mention makes it fail. -/
theorem not_alike_withSurrogate : ¬ ∀ (d : RuleDocument) (x y : HostContext), x.AgreesFor d y →
    ∀ limit template given given', Alike (applyGiven limit .empty template (some d) x given)
      (applyGiven limit .empty template (some d) y given') := by
  intro h
  have halike := h picksLanguage _ _ (withSurrogate_agreesFor [("lang", "rust")]) 8 (.ofString "ab") none none
  refine not_alike_of_outcome_eq_surrogates (outcome_applyGiven_of_not_hasBytes ?_) halike
  exact mt And.right (HostContext.not_hasBytes_withSurrogate _)

end Engine

end TemplateRules
