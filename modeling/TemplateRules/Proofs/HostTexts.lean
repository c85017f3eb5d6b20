import Mathlib.Data.Set.List
import TemplateRules.Host
import TemplateRules.Proofs.EngineOutcome

/-!
# Texts with and without bytes

A text of the host has bytes if it holds no surrogate, and then it is one of characters. If all that a result
depends on has bytes, then applying a document to what the host gives is applying it to characters; and if
anything has none, then no document is applied at all.

## Main definitions

* `HostText.HasBytes`, `HostContext.HasBytes`: no surrogate is in a text, or in any text of a context
* `HostContext.ofContext`: a context of characters as the host gives it

## Main results

* `HostText.hasBytes_iff`, `HostContext.hasBytes_iff`: what has bytes is what characters make up
* `Engine.outcome_applyGiven_ofString`, `Engine.outcome_applyGiven_of_not_hasBytes`: the outcome of applying
  a document to what the host gives
-/

namespace TemplateRules

/-! ## Lists of characters -/

section Lists

variable {α β : Type} {f : α → Option β} {g : β → α}

theorem mapM_eq_some_iff (h : ∀ a b, f a = some b ↔ a = g b) {as : List α} {bs : List β} :
    as.mapM f = some bs ↔ as = bs.map g := by
  induction as generalizing bs with
  | nil => cases bs <;> simp
  | cons a as ih => cases bs <;> simp [List.mapM_cons, Option.bind_eq_some_iff, h, ih]

theorem optionMapM_eq_some_iff (h : ∀ a b, f a = some b ↔ a = g b) {o : Option α} {p : Option β} :
    o.mapM f = some p ↔ o = p.map g := by
  cases o <;> cases p <;> simp [h]

/-- A list is a list of images if each of its members is one. -/
theorem exists_eq_map_iff {as : List α} : (∃ bs : List β, as = bs.map g) ↔ ∀ a ∈ as, ∃ b, a = g b := by
  have hrange : as ∈ Set.range (List.map g) ↔ ∀ a ∈ as, a ∈ Set.range g := by rw [Set.range_list_map]; rfl
  simpa [Set.mem_range, eq_comm] using hrange

end Lists

/-! ## Texts -/

theorem CodePoint.char?_eq_some_iff (p : CodePoint) (c : Char) : p.char? = some c ↔ p = .char c := by
  cases p <;> simp [char?]

namespace HostText

/-- No code point of a text is a surrogate. -/
def HasBytes (t : HostText) : Prop := ∀ offset, .surrogate offset ∉ t.points

theorem text?_eq_some_iff {t : HostText} {s : String} : t.text? = some s ↔ t = ofString s := by
  obtain ⟨points⟩ := t
  simp only [text?, Option.map_eq_some_iff, mapM_eq_some_iff CodePoint.char?_eq_some_iff, ofString,
    mk.injEq]
  constructor
  · rintro ⟨cs, rfl, rfl⟩
    simp
  · rintro rfl
    exact ⟨s.toList, rfl, String.ofList_toList⟩

@[simp] theorem text?_ofString (s : String) : (ofString s).text? = some s := text?_eq_some_iff.mpr rfl

theorem ofString_inj {s s' : String} : ofString s = ofString s' ↔ s = s' := by
  rw [← text?_eq_some_iff, text?_ofString, Option.some.injEq]

/-- A text has bytes if it is one of characters. -/
theorem hasBytes_iff {t : HostText} : t.HasBytes ↔ ∃ s, t = ofString s := by
  obtain ⟨points⟩ := t
  have hpoints : (∃ s, HostText.mk points = ofString s) ↔ ∃ cs : List Char, points = cs.map .char :=
    ⟨fun ⟨s, hs⟩ => ⟨s.toList, congrArg HostText.points hs⟩, fun ⟨cs, hcs⟩ =>
      ⟨String.ofList cs, by simp [ofString, hcs]⟩⟩
  rw [hpoints, exists_eq_map_iff, HasBytes]
  constructor
  · intro h p hp
    cases p with
    | char c => exact ⟨c, rfl⟩
    | surrogate offset => exact absurd hp (h offset)
  · intro h offset hoffset
    obtain ⟨c, hc⟩ := h _ hoffset
    exact CodePoint.noConfusion hc

@[simp] theorem hasBytes_ofString (s : String) : (ofString s).HasBytes := hasBytes_iff.mpr ⟨s, rfl⟩

end HostText

/-! ## Contexts -/

namespace HostContext

/-- No text of a context has a surrogate. -/
structure HasBytes (x : HostContext) : Prop where
  generatorVersion : ∀ t, x.generatorVersion = some t → t.HasBytes
  template : ∀ t, x.template = some t → t.HasBytes
  properties : ∀ e ∈ x.properties, e.1.HasBytes ∧ e.2.HasBytes
  environment : ∀ e ∈ x.environment, e.1.HasBytes ∧ e.2.HasBytes

/-- A name and its value as the host gives them. -/
def ofEntry (e : String × String) : HostText × HostText := (.ofString e.1, .ofString e.2)

/-- A context of characters as the host gives it. -/
def ofContext (x : Context) : HostContext where
  generatorVersion := x.generatorVersion.map .ofString
  template := x.template.map .ofString
  properties := x.properties.map ofEntry
  environment := x.environment.map ofEntry
  detector := x.detector

theorem entry?_eq_some_iff (e : HostText × HostText) (p : String × String) :
    entry? e = some p ↔ e = ofEntry p := by
  obtain ⟨name, value⟩ := e
  obtain ⟨name', value'⟩ := p
  rw [ofEntry, Prod.mk.injEq, ← HostText.text?_eq_some_iff, ← HostText.text?_eq_some_iff, entry?]
  cases name.text? <;> cases value.text? <;> simp

theorem context?_eq_some_iff {x : HostContext} {c : Context} : x.context? = some c ↔ x = ofContext c := by
  obtain ⟨version, template, properties, environment, detector⟩ := x
  obtain ⟨version', template', properties', environment', detector'⟩ := c
  have htext := fun t s => @HostText.text?_eq_some_iff t s
  simp [context?, ofContext, Option.bind_eq_some_iff, optionMapM_eq_some_iff htext,
    mapM_eq_some_iff entry?_eq_some_iff]

@[simp] theorem context?_ofContext (c : Context) : (ofContext c).context? = some c :=
  context?_eq_some_iff.mpr rfl

theorem exists_eq_map_ofString_iff {o : Option HostText} :
    (∃ p : Option String, o = p.map .ofString) ↔ ∀ t, o = some t → t.HasBytes := by
  cases o with
  | none => exact iff_of_true ⟨none, rfl⟩ (by simp)
  | some t =>
    simp only [Option.some.injEq, forall_eq', HostText.hasBytes_iff]
    exact ⟨fun ⟨p, hp⟩ => by cases p <;> simp_all, fun ⟨s, hs⟩ => ⟨some s, by simp [hs]⟩⟩

theorem exists_eq_map_ofEntry_iff {es : List (HostText × HostText)} :
    (∃ ps : List (String × String), es = ps.map ofEntry) ↔ ∀ e ∈ es, e.1.HasBytes ∧ e.2.HasBytes := by
  rw [exists_eq_map_iff]
  refine forall₂_congr fun e _ => ?_
  rw [HostText.hasBytes_iff, HostText.hasBytes_iff]
  exact ⟨fun ⟨p, hp⟩ => ⟨⟨p.1, by rw [hp, ofEntry]⟩, ⟨p.2, by rw [hp, ofEntry]⟩⟩,
    fun ⟨⟨name, hname⟩, value, hvalue⟩ => ⟨(name, value), Prod.ext hname hvalue⟩⟩

/-- A context has bytes if it is one of characters. -/
theorem hasBytes_iff {x : HostContext} : x.HasBytes ↔ ∃ c, x = ofContext c := by
  constructor
  · rintro ⟨hversion, htemplate, hproperties, henvironment⟩
    obtain ⟨version, hversion⟩ := exists_eq_map_ofString_iff.mpr hversion
    obtain ⟨template, htemplate⟩ := exists_eq_map_ofString_iff.mpr htemplate
    obtain ⟨properties, hproperties⟩ := exists_eq_map_ofEntry_iff.mpr hproperties
    obtain ⟨environment, henvironment⟩ := exists_eq_map_ofEntry_iff.mpr henvironment
    refine ⟨⟨version, template, properties, environment, x.detector⟩, ?_⟩
    rw [ofContext, ← hversion, ← htemplate, ← hproperties, ← henvironment]
  · rintro ⟨c, rfl⟩
    exact ⟨exists_eq_map_ofString_iff.mp ⟨_, rfl⟩, exists_eq_map_ofString_iff.mp ⟨_, rfl⟩,
      exists_eq_map_ofEntry_iff.mp ⟨_, rfl⟩, exists_eq_map_ofEntry_iff.mp ⟨_, rfl⟩⟩

@[simp] theorem hasBytes_ofContext (c : Context) : (ofContext c).HasBytes := hasBytes_iff.mpr ⟨c, rfl⟩

/-- The context with one more variable, whose value is three letters and the byte `E9`, which is no text. -/
def withSurrogate (x : HostContext) : HostContext :=
  { x with environment :=
      x.environment ++ [(.ofString "X", ⟨[.char 'c', .char 'a', .char 'f', .surrogate 0x4E9]⟩)] }

theorem not_hasBytes_withSurrogate (x : HostContext) : ¬ (withSurrogate x).HasBytes := by
  intro h
  have hvalue := h.environment (.ofString "X", ⟨[.char 'c', .char 'a', .char 'f', .surrogate 0x4E9]⟩)
    (by simp [withSurrogate])
  exact hvalue.2 0x4E9 (by simp)

end HostContext

/-! ## Applying documents -/

namespace Engine

variable {limit : Int} {kept : Results} {d : RuleDocument} {given : Option String}

/-- Characters are worked on as such. -/
theorem outcome_applyGiven_ofString (s : String) (c : Context) :
    (applyGiven limit kept (.ofString s) (some d) (.ofContext c) given).outcome =
      (apply limit kept s (some d) c given).outcome.map fun r => (.ofString r.1, r.2) := by
  simp only [applyGiven, HostText.text?_ofString, HostContext.context?_ofContext, Attempt.outcome_bind]
  cases (apply limit kept s (some d) c given).outcome <;> rfl

/-- Nothing is worked on if a text has no bytes. -/
theorem outcome_applyGiven_of_not_hasBytes {template : HostText} {x : HostContext}
    (h : ¬ (template.HasBytes ∧ x.HasBytes)) :
    (applyGiven limit kept template (some d) x given).outcome = .error (.defect .surrogates) := by
  rw [applyGiven]
  split
  · rename_i text c htext hc
    refine absurd ⟨?_, ?_⟩ h
    · exact HostText.hasBytes_iff.mpr ⟨text, HostText.text?_eq_some_iff.mp htext⟩
    · exact HostContext.hasBytes_iff.mpr ⟨c, HostContext.context?_eq_some_iff.mp hc⟩
  · rfl

end Engine

end TemplateRules
