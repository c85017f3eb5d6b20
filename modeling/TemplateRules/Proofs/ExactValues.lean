import Mathlib.Data.List.DropRight
import TemplateRules.Proofs.Characters
import TemplateRules.Proofs.ConditionMeaning

/-!
# Conditions on exact values

A condition `name=value` asks whether a property or a variable has a value, and it is meant to be an exact
match. It is one where the value has no blanks at its ends, whatever else stands in it, further equality signs
and nothing at all included. Blanks at its ends are dropped before the comparison, but those of the value that
the table holds are not: such a condition is met by the shorter value and never by the one that it writes.

## Main definitions

* `Text.Pads`: a text that is another one with blanks around it
* `Table.Distinguishes`: what a table holds under a name, where the blanks of a value do not matter

## Main results

* `Text.strip_eq_iff`: stripping takes the blanks at the ends of a text away and nothing else
* `Context.matches_exactly_iff`: when a condition on a value is an exact match
-/

namespace TemplateRules

open Text

namespace Text

/-- A text without blanks at its ends. -/
def Trimmed (s : String) : Prop :=
  (∀ c ∈ s.toList.head?, isBlank c = false) ∧ ∀ c ∈ s.toList.getLast?, isBlank c = false

/-- A text is another one, which has no blanks at its ends, with blanks around it. -/
def Pads (padded bare : String) : Prop :=
  Trimmed bare ∧ ∃ before after : List Char, padded.toList = before ++ bare.toList ++ after ∧
    (∀ c ∈ before, isBlank c = true) ∧ ∀ c ∈ after, isBlank c = true

variable {s t : String}

theorem pads_strip (s : String) : Pads s (strip s) := by
  obtain ⟨before, after, hsplit, hbefore, hafter, hhead, hlast⟩ := exists_blanks_around_stripChars s.toList
  rw [Pads, Trimmed, strip, String.toList_ofList]
  exact ⟨⟨hhead, hlast⟩, before, after, hsplit, hbefore, hafter⟩

/-- Stripping takes the blanks at the ends of a text away and nothing else. -/
theorem strip_eq_iff : strip s = t ↔ Pads s t := by
  refine ⟨fun h => h ▸ pads_strip s, ?_⟩
  rintro ⟨⟨hhead, hlast⟩, before, after, hsplit, hbefore, hafter⟩
  rw [← String.toList_inj, strip, String.toList_ofList, hsplit]
  by_cases hempty : t.toList = []
  · rw [hempty, List.append_nil, stripChars, List.dropWhile_append_of_pos hbefore]
    simp [List.dropWhile_eq_nil_iff.mpr hafter]
  · exact stripChars_append hbefore hafter hempty hhead hlast

theorem strip_eq_self_iff : strip s = s ↔ Trimmed s := by
  refine strip_eq_iff.trans ⟨fun h => h.1, fun h => ⟨h, [], [], by simp, by simp, by simp⟩⟩

end Text

namespace Table

/-- What a table holds under a name is neither a value nor the value without the blanks at its ends, or these
are the same. -/
def Distinguishes (values : Table String) (name value : String) : Prop :=
  Trimmed value ∨ ∀ held, values.lookup name = some held → held ≠ value ∧ ¬ Pads value held

variable {values : Table String} {nonempty : Bool} {name value : String}

/-- A specification with a value is met by the value without the blanks at its ends. -/
theorem satisfies_padded_iff (hplain : '=' ∉ name.toList) (hname : Trimmed name) :
    values.Satisfies nonempty (name ++ "=" ++ value) ↔
      ∃ held, values.lookup name = some held ∧ Pads value held := by
  rw [satisfies_value_iff hplain, strip_eq_self_iff.mpr hname]
  simp only [← strip_eq_iff]
  exact ⟨fun h => ⟨_, h, rfl⟩, fun ⟨_, h, heq⟩ => heq ▸ h⟩

/-- A specification is met by exactly its value where the blanks of the value do not matter. -/
theorem satisfies_exactly_iff (hplain : '=' ∉ name.toList) (hname : Trimmed name) :
    (values.Satisfies nonempty (name ++ "=" ++ value) ↔ values.lookup name = some value) ↔
      values.Distinguishes name value := by
  rw [satisfies_padded_iff hplain hname, Distinguishes, ← strip_eq_self_iff]
  cases values.lookup name with
  | none => simp
  | some held =>
    simp only [← strip_eq_iff, Option.some.injEq, exists_eq_left', forall_eq']
    constructor
    · intro h
      by_cases heq : held = value
      · exact .inl ((h.mpr heq).trans heq)
      · exact .inr ⟨heq, mt h.mp heq⟩
    · rintro (h | ⟨hvalue, hpads⟩)
      · rw [h, eq_comm]
      · exact iff_of_false hpads hvalue

end Table

namespace Context

/-- **When a condition on a value is an exact match.** The condition is met if the table holds the value without
the blanks at its ends. So it is met by exactly the value that it writes if that has no blanks at its ends, or
the table holds neither. -/
theorem matches_exactly_iff (x : Context) {name value : String} (hplain : '=' ∉ name.toList)
    (hname : Trimmed name) :
    ((x.hasProperty (name ++ "=" ++ value) = true ↔
        ∃ held, x.properties.lookup name = some held ∧ Pads value held) ∧
      ((x.hasProperty (name ++ "=" ++ value) = true ↔ x.properties.lookup name = some value) ↔
        x.properties.Distinguishes name value)) ∧
    (x.hasVariable (name ++ "=" ++ value) = true ↔
        ∃ held, x.environment.lookup name = some held ∧ Pads value held) ∧
      ((x.hasVariable (name ++ "=" ++ value) = true ↔ x.environment.lookup name = some value) ↔
        x.environment.Distinguishes name value) := by
  rw [hasProperty, hasVariable, ← Table.satisfies_iff, ← Table.satisfies_iff]
  exact ⟨⟨Table.satisfies_padded_iff hplain hname, Table.satisfies_exactly_iff hplain hname⟩,
    Table.satisfies_padded_iff hplain hname, Table.satisfies_exactly_iff hplain hname⟩

/-- A project with a value that has an equality sign and a value between blanks, and a variable that is empty. -/
def described : Context := ⟨none, none, [("flags", "-D mode=fast"), ("title", " Pets ")], [("CI", "")], .markers⟩

/-- A value with blanks and an equality sign in it is met exactly, and so is the empty one. -/
theorem matches_exactly_described :
    ('=' ∉ "flags".toList ∧ Trimmed "flags" ∧ described.hasProperty ("flags" ++ "=" ++ "-D mode=fast") = true) ∧
      '=' ∉ "CI".toList ∧ Trimmed "CI" ∧ described.hasVariable ("CI" ++ "=" ++ "") = true := by
  have hflags : Trimmed "flags" := strip_eq_self_iff.mp (by decide)
  have hci : Trimmed "CI" := strip_eq_self_iff.mp (by decide)
  have hvalue : Trimmed "-D mode=fast" := strip_eq_self_iff.mp (by decide)
  have hempty : Trimmed "" := strip_eq_self_iff.mp (by decide)
  refine ⟨⟨by decide, hflags, ?_⟩, by decide, hci, ?_⟩
  · exact ((matches_exactly_iff described (by decide) hflags).1.2.mpr (.inl hvalue)).mpr rfl
  · exact ((matches_exactly_iff described (by decide) hci).2.2.mpr (.inl hempty)).mpr rfl

/-- The title is held as it is written, and the condition on it is not met. -/
theorem not_matches_exactly_padded :
    ¬ ∀ (x : Context) (name value : String), name ≠ "" → '=' ∉ name.toList → Trimmed name →
      ((x.hasProperty (name ++ "=" ++ value) = true ↔ x.properties.lookup name = some value) ∧
        (x.hasVariable (name ++ "=" ++ value) = true ↔ x.environment.lookup name = some value)) := by
  intro h
  have htitle : Trimmed "title" := strip_eq_self_iff.mp (by decide)
  have hexact := (h described "title" " Pets " (by decide) (by decide) htitle).1
  exact absurd (hexact.mpr rfl) (by decide)

end Context

end TemplateRules
