import Mathlib.Data.List.Forall2
import TemplateRules.Rule.Structure

/-!
# The grammar of rule documents

What a rule document is, said without the walk and without the shapes: every map has certain keys, some
of which it must have, and what is under a key is of a certain form. Two parts of a document contain
parts of their own kind, condition sets and rules with a fallback, and both are bounded: a condition set
by the number of sets that are one inside the other, a rule by the number of fallbacks behind it.

## Main definitions

* `Grammar.IsMap`: a map with the given keys, each over values of a form
* `Grammar.IsConditions`, `Grammar.IsInsertion`, `Grammar.IsReplacement`: the parts that nest
* `Grammar.NamesKind`: the texts that name a kind of replacement
* `Grammar.IsDocument`: the documents of a limit
-/

namespace TemplateRules.Grammar

open Text (isBlank sameLetter)

variable {ρ : Type}

/-! ## Values -/

/-- What is under a key, if there is anything, is of a form. -/
def Under (key : String) (entries : List (Scalar × ρ)) (form : ρ → Prop) : Prop :=
  ∀ part, lookupKey key entries = some part → form part

/-- A text names a kind of replacement: between blanks it has one of the words, each letter in any case. -/
def NamesKind (s : String) : Prop :=
  ∃ before word after, s.toList = before ++ word ++ after ∧
    (∀ c ∈ before, isBlank c = true) ∧ (∀ c ∈ after, isBlank c = true) ∧
    (∀ c ∈ word.head?, isBlank c = false) ∧ (∀ c ∈ word.getLast?, isBlank c = false) ∧
    ∃ kind ∈ ["string", "regex"], List.Forall₂ (fun a b => sameLetter a b = true) kind.toList word

section Forms

variable (view : View ρ)

/-- A text. -/
def IsText (v : ρ) : Prop := ∃ s, view.layer v = .scalar (.text s)

/-- A text or a number; truth values are neither. -/
def IsTextOrNumber (v : ρ) : Prop :=
  ∃ s, view.layer v = .scalar s ∧ ((∃ t, s = .text t) ∨ s.isNumber = true)

/-- A text that names a kind of replacement. -/
def IsKind (v : ρ) : Prop := ∃ s, view.layer v = .scalar (.text s) ∧ NamesKind s

/-- A list of items of one form. -/
def IsList (item : ρ → Prop) (v : ρ) : Prop :=
  ∃ items, view.layer v = .list items ∧ ∀ part ∈ items, item part

/-- A map from anything to texts. -/
def IsTexts (v : ρ) : Prop :=
  ∃ entries, view.layer v = .map entries ∧ ∀ e ∈ entries, IsText view e.2

/-- A map that has no keys but those of the fields, has the required ones, and has under each key a value
of the form of its field. -/
def IsMap (required : List String) (fields : List (String × (ρ → Prop))) (v : ρ) : Prop :=
  ∃ entries, view.layer v = .map entries ∧
    (∀ e ∈ entries, ∃ f ∈ fields, e.1 = .text f.1) ∧
    (∀ key ∈ required, hasKey key entries = true) ∧
    ∀ f ∈ fields, Under f.1 entries f.2

/-! ## The parts of a document -/

/-- A condition set of at most `height` sets that are one inside the other, its own included. -/
def IsConditions : (height : Nat) → ρ → Prop
  | 0 => fun _ => False
  | height + 1 => IsMap view [] [
    ("generatorVersion", IsText view),
    ("templateContains", IsText view),
    ("templateNotContains", IsText view),
    ("templateContainsAll", IsList view (IsText view)),
    ("templateContainsAny", IsList view (IsText view)),
    ("hasFeature", IsText view),
    ("hasAllFeatures", IsList view (IsText view)),
    ("hasAnyFeatures", IsList view (IsText view)),
    ("projectProperty", IsText view),
    ("environmentVariable", IsText view),
    ("buildType", IsText view),
    ("allOf", IsList view (IsConditions height)),
    ("anyOf", IsList view (IsConditions height)),
    ("not", IsConditions height)]

/-- The fields of an insertion whose fallback is of a form. -/
def insertionFields (height : Nat) (fallback : ρ → Prop) : List (String × (ρ → Prop)) := [
  ("after", IsText view),
  ("before", IsText view),
  ("at", IsText view),
  ("content", IsText view),
  ("conditions", IsConditions view height),
  ("fallback", fallback)]

/-- An insertion with a chain of at most so many fallbacks. -/
def IsInsertion (height : Nat) : (fallbacks : Nat) → ρ → Prop
  | 0 => IsMap view ["content"] (insertionFields view height fun _ => False)
  | fallbacks + 1 => IsMap view ["content"] (insertionFields view height (IsInsertion height fallbacks))

/-- The fields of a replacement whose fallback is of a form. -/
def replacementFields (height : Nat) (fallback : ρ → Prop) : List (String × (ρ → Prop)) := [
  ("find", IsText view),
  ("replace", IsText view),
  ("type", IsKind view),
  ("conditions", IsConditions view height),
  ("fallback", fallback)]

/-- A replacement with a chain of at most so many fallbacks. -/
def IsReplacement (height : Nat) : (fallbacks : Nat) → ρ → Prop
  | 0 => IsMap view ["find", "replace"] (replacementFields view height fun _ => False)
  | fallbacks + 1 =>
    IsMap view ["find", "replace"] (replacementFields view height (IsReplacement height fallbacks))

/-- The variants of a pattern. -/
def IsVariants : ρ → Prop :=
  IsMap view ["type", "variants"] [
    ("type", IsText view),
    ("variants", IsList view (IsText view))]

/-- A smart replacement. -/
def IsSmartReplacement (height : Nat) : ρ → Prop :=
  IsMap view ["replace"] [
    ("findAny", IsList view (IsText view)),
    ("semantic", IsText view),
    ("findPattern", IsVariants view),
    ("replace", IsText view),
    ("conditions", IsConditions view height)]

/-- A location. -/
def IsLocation : ρ → Prop :=
  IsMap view [] [("after", IsText view), ("before", IsText view)]

/-- An insertion point. -/
def IsInsertionPoint : ρ → Prop :=
  IsMap view ["patterns"] [("patterns", IsList view (IsLocation view))]

/-- A smart insertion whose fallback has at most so many fallbacks of its own. -/
def IsSmartInsertion (height fallbacks : Nat) : ρ → Prop :=
  IsMap view ["content"] [
    ("semantic", IsText view),
    ("findInsertionPoint", IsInsertionPoint view),
    ("content", IsText view),
    ("conditions", IsConditions view height),
    ("fallback", IsInsertion view height fallbacks)]

/-- Metadata, which may be null. -/
def IsMetadata (v : ρ) : Prop :=
  view.layer v = .scalar .null ∨ IsMap view [] [
    ("name", IsText view),
    ("description", IsText view),
    ("version", IsTextOrNumber view),
    ("author", IsText view)] v

/-- A document whose condition sets are of at most `height` sets one inside the other, whose rules have at
most so many fallbacks, and whose smart insertions have a fallback with at most so many of its own. -/
def IsDocumentWithin (height fallbacks inner : Nat) : ρ → Prop :=
  IsMap view [] [
    ("metadata", IsMetadata view),
    ("conditions", IsConditions view height),
    ("insertions", IsList view (IsInsertion view height fallbacks)),
    ("replacements", IsList view (IsReplacement view height fallbacks)),
    ("smartReplacements", IsList view (IsSmartReplacement view height)),
    ("smartInsertions", IsList view (IsSmartInsertion view height inner)),
    ("partials", IsTexts view)]

/-- A document of a limit: condition sets are at most `limit` levels below their root, and a chain has at
most `limit` fallbacks, of which that of a smart insertion is the first. A smart insertion may have one
fallback even where no other rule may. -/
def IsDocument (limit : Nat) : ρ → Prop := IsDocumentWithin view (limit + 1) limit (limit - 1)

end Forms

/-! ## Under keys -/

section Keys

variable {key : String} {entries : List (Scalar × ρ)} {form form' : ρ → Prop}

theorem under_and : Under key entries (fun v => form v ∧ form' v) ↔
    Under key entries form ∧ Under key entries form' :=
  ⟨fun h => ⟨fun v hv => (h v hv).1, fun v hv => (h v hv).2⟩, fun h v hv => ⟨h.1 v hv, h.2 v hv⟩⟩

theorem under_congr (h : ∀ v, form v ↔ form' v) : Under key entries form ↔ Under key entries form' :=
  forall_congr' fun v => imp_congr_right fun _ => h v

end Keys

end TemplateRules.Grammar
