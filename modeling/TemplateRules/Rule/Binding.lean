import TemplateRules.Number.Shortest
import TemplateRules.Rule.Document
import TemplateRules.Text.Blank
import TemplateRules.Text.Case
import TemplateRules.Value.Binding

/-!
# Binding rule documents

A rule document is read from a value part by part. The kind of a replacement is read without regard to
case and surrounding blanks, and a version that is a number counts as its text; all else must have the
type of its field.

## Main definitions

* `ConditionSet.ofValue`, `Insertion.chainOf`, `Replacement.chainOf`, `SmartReplacement.ofValue`,
  `SmartInsertion.ofValue`: the parts
* `RuleDocument.ofValue`: the whole document
-/

namespace TemplateRules

open Value (asText asTexts orNull asTable)

/-! ## Condition sets -/

namespace ConditionSet

/-- The fields of a condition set: the plain clauses, then the nested sets. -/
def fieldKeys : List FieldKey := [
  ⟨"generatorVersion", "generator_version"⟩,
  ⟨"templateContains", "template_contains"⟩,
  ⟨"templateNotContains", "template_not_contains"⟩,
  ⟨"templateContainsAll", "template_contains_all"⟩,
  ⟨"templateContainsAny", "template_contains_any"⟩,
  ⟨"hasFeature", "has_feature"⟩,
  ⟨"hasAllFeatures", "has_all_features"⟩,
  ⟨"hasAnyFeatures", "has_any_features"⟩,
  ⟨"projectProperty", "project_property"⟩,
  ⟨"environmentVariable", "environment_variable"⟩,
  ⟨"buildType", "build_type"⟩,
  ⟨"allOf", "all_of"⟩,
  ⟨"anyOf", "any_of"⟩,
  ⟨"not", "not_"⟩]

/-- Binds the plain clauses. -/
def clausesOf (entries : List (Scalar × Value)) : Bound Clauses :=
  let text (f : FieldKey) := f.optional entries none (orNull asText)
  let texts (f : FieldKey) := f.optional entries none (orNull asTexts)
  (Bound.value Clauses.mk).ap (text ⟨"generatorVersion", "generator_version"⟩)
    |>.ap (text ⟨"templateContains", "template_contains"⟩)
    |>.ap (text ⟨"templateNotContains", "template_not_contains"⟩)
    |>.ap (texts ⟨"templateContainsAll", "template_contains_all"⟩)
    |>.ap (texts ⟨"templateContainsAny", "template_contains_any"⟩)
    |>.ap (text ⟨"hasFeature", "has_feature"⟩)
    |>.ap (texts ⟨"hasAllFeatures", "has_all_features"⟩)
    |>.ap (texts ⟨"hasAnyFeatures", "has_any_features"⟩)
    |>.ap (text ⟨"projectProperty", "project_property"⟩)
    |>.ap (text ⟨"environmentVariable", "environment_variable"⟩)
    |>.ap (text ⟨"buildType", "build_type"⟩)

/-- A set that must be there. -/
def required (c : Bound (Option ConditionSet)) : Bound ConditionSet :=
  match c with
  | .ok (some c) => .ok c
  | .ok none => .misfit (.notModel "ConditionSet")
  | .error ps => .error ps

/-- What is bound under the key of a field, or else under its name, or else nothing. -/
def either {α : Type} (byKey byName : Option (Bound (Option α))) : Bound (Option α) :=
  (byKey.or byName).getD (.ok none)

mutual

/-- Binds a condition set that may be null. -/
def ofNullable : Value → Bound (Option ConditionSet)
  | .map entries =>
    ((Bound.value fun clauses allOf anyOf negated => some (mk clauses allOf anyOf negated)).ap
        (clausesOf entries)
      |>.ap (either (listUnder "allOf" entries) (listUnder "all_of" entries))
      |>.ap (either (listUnder "anyOf" entries) (listUnder "any_of" entries))
      |>.ap (either (setUnder "not" entries) (setUnder "not_" entries))).refuse
        (FieldKey.unused fieldKeys entries)
  | .scalar .null => .ok none
  | .scalar _ => .misfit (.notModel "ConditionSet")
  | .list _ => .misfit (.notModel "ConditionSet")
  | .pair _ _ => .misfit (.notModel "ConditionSet")
  | .members _ => .misfit (.notModel "ConditionSet")

/-- Binds a list of condition sets that may be null. -/
def ofListValue : Value → Bound (Option (List ConditionSet))
  | .list items => (ofItems 0 items).map some
  | .pair a b =>
    (Bound.value fun a b => some [a, b]).ap ((required (ofNullable a)).within (.index 0))
      |>.ap ((required (ofNullable b)).within (.index 1))
  | .members keys =>
    (Bound.items (fun _ => (.misfit (.notModel "ConditionSet") : Bound ConditionSet)) 0 keys).map some
  | .scalar .null => .ok none
  | .scalar _ => .misfit .notTuple
  | .map _ => .misfit .notTuple

/-- Binds the items of a list of condition sets. -/
def ofItems (position : Nat) : List Value → Bound (List ConditionSet)
  | [] => .ok []
  | v :: vs => (Bound.value List.cons).ap ((required (ofNullable v)).within (.index position))
      |>.ap (ofItems (position + 1) vs)

/-- Binds the list of condition sets under a key. -/
def listUnder (key : String) : List (Scalar × Value) → Option (Bound (Option (List ConditionSet)))
  | [] => none
  | (k, v) :: rest =>
    if k = .text key then some ((ofListValue v).within (.key (.text key))) else listUnder key rest

/-- Binds the condition set under a key. -/
def setUnder (key : String) : List (Scalar × Value) → Option (Bound (Option ConditionSet))
  | [] => none
  | (k, v) :: rest =>
    if k = .text key then some ((ofNullable v).within (.key (.text key))) else setUnder key rest

end

/-- Binds a condition set. -/
def ofValue (v : Value) : Bound ConditionSet := required (ofNullable v)

end ConditionSet

/-! ## Chains -/

namespace Chain

variable {α : Type}

mutual

/-- Binds a rule and its fallbacks, where `level` binds the rule itself; null is no rule. -/
def rulesOf (model : String) (keys : List FieldKey) (level : List (Scalar × Value) → Bound α) :
    Value → Bound (List α)
  | .map entries =>
    ((Bound.value List.cons).ap (level entries)
      |>.ap (fallbackUnder model keys level entries)).refuse (FieldKey.unused keys entries)
  | .scalar .null => .ok []
  | .scalar _ => .misfit (.notModel model)
  | .list _ => .misfit (.notModel model)
  | .pair _ _ => .misfit (.notModel model)
  | .members _ => .misfit (.notModel model)

/-- Binds the fallback that entries hold. -/
def fallbackUnder (model : String) (keys : List FieldKey)
    (level : List (Scalar × Value) → Bound α) : List (Scalar × Value) → Bound (List α)
  | [] => .ok []
  | (k, v) :: rest =>
    if k = .text "fallback" then (rulesOf model keys level v).within (.key (.text "fallback"))
    else fallbackUnder model keys level rest

end

/-- Binds a chain, which must have a first rule. -/
def ofValue (model : String) (keys : List FieldKey) (level : List (Scalar × Value) → Bound α)
    (v : Value) : Bound (Chain α) :=
  match rulesOf model keys level v with
  | .ok (first :: fallbacks) => .ok ⟨first, fallbacks⟩
  | .ok [] => .misfit (.notModel model)
  | .error ps => .error ps

end Chain

/-! ## Rules -/

/-- Binds a field that holds a text or null. -/
def optionalText (f : FieldKey) (entries : List (Scalar × Value)) : Bound (Option String) :=
  f.optional entries none (orNull asText)

/-- Binds the field that holds the conditions of a rule. -/
def conditionsField (entries : List (Scalar × Value)) : Bound (Option ConditionSet) :=
  (FieldKey.plain "conditions").optional entries none ConditionSet.ofNullable

namespace Insertion

/-- The fields of an insertion. -/
def fieldKeys : List FieldKey :=
  ["after", "before", "at", "content", "conditions", "fallback"].map .plain

/-- Binds an insertion without its fallback. -/
def levelOf (entries : List (Scalar × Value)) : Bound Insertion :=
  (Bound.value Insertion.mk).ap (optionalText (.plain "after") entries)
    |>.ap (optionalText (.plain "before") entries)
    |>.ap (optionalText (.plain "at") entries)
    |>.ap ((FieldKey.plain "content").required entries asText)
    |>.ap (conditionsField entries)

/-- Binds an insertion and its fallbacks; null is no insertion. -/
def rulesOf : Value → Bound (List Insertion) := Chain.rulesOf "Insertion" fieldKeys levelOf

/-- Binds an insertion and its fallbacks. -/
def chainOf : Value → Bound (Chain Insertion) := Chain.ofValue "Insertion" fieldKeys levelOf

end Insertion

namespace ReplacementKind

/-- The kind that a text names, without regard to case and surrounding blanks. -/
def ofText? (s : String) : Option ReplacementKind :=
  ofWord? (String.ofList (Text.lowerChars (Text.stripChars s.toList)))

/-- Binds a kind of replacement. -/
def ofValue : Value → Bound ReplacementKind
  | .scalar (.text s) =>
    match ofText? s with
    | some kind => .ok kind
    | none => .misfit .notRuleKind
  | _ => .misfit .notRuleKind

end ReplacementKind

namespace Replacement

/-- The fields of a replacement. -/
def fieldKeys : List FieldKey :=
  [.plain "find", .plain "replace", ⟨"type", "kind"⟩, .plain "conditions", .plain "fallback"]

/-- Binds a replacement without its fallback. -/
def levelOf (entries : List (Scalar × Value)) : Bound Replacement :=
  (Bound.value Replacement.mk).ap ((FieldKey.plain "find").required entries asText)
    |>.ap ((FieldKey.plain "replace").required entries asText)
    |>.ap ((FieldKey.mk "type" "kind").optional entries .literal ReplacementKind.ofValue)
    |>.ap (conditionsField entries)

/-- Binds a replacement and its fallbacks. -/
def chainOf : Value → Bound (Chain Replacement) := Chain.ofValue "Replacement" fieldKeys levelOf

end Replacement

/-- Binds the variants of a pattern. -/
def VariantPattern.ofValue (v : Value) : Bound VariantPattern := do
  let entries ← v.entriesOf "FindPattern"
  ((Bound.value VariantPattern.mk).ap ((FieldKey.plain "type").required entries asText)
    |>.ap ((FieldKey.plain "variants").required entries asTexts)).refuse
      (FieldKey.unused [.plain "type", .plain "variants"] entries)

namespace SmartReplacement

/-- The fields of a smart replacement. -/
def fieldKeys : List FieldKey := [⟨"findAny", "find_any"⟩, .plain "semantic",
  ⟨"findPattern", "find_pattern"⟩, .plain "replace", .plain "conditions"]

/-- Binds a smart replacement. -/
def ofValue (v : Value) : Bound SmartReplacement := do
  let entries ← v.entriesOf "SmartReplacement"
  ((Bound.value SmartReplacement.mk).ap
      ((FieldKey.mk "findAny" "find_any").optional entries none (orNull asTexts))
    |>.ap (optionalText (.plain "semantic") entries)
    |>.ap ((FieldKey.mk "findPattern" "find_pattern").optional entries none
      (orNull VariantPattern.ofValue))
    |>.ap ((FieldKey.plain "replace").required entries asText)
    |>.ap (conditionsField entries)).refuse (FieldKey.unused fieldKeys entries)

end SmartReplacement

/-- Binds a location. -/
def PatternLocation.ofValue (v : Value) : Bound PatternLocation := do
  let entries ← v.entriesOf "PatternLocation"
  ((Bound.value PatternLocation.mk).ap (optionalText (.plain "after") entries)
    |>.ap (optionalText (.plain "before") entries)).refuse
      (FieldKey.unused [.plain "after", .plain "before"] entries)

/-- Binds a sequence whose items are bound alike. -/
def sequenceOf {α : Type} (bind : Value → Bound α) (v : Value) : Bound (List α) := do
  Bound.items bind 0 (← v.itemsOf)

/-- Binds the locations of an insertion point. -/
def locationsOf (v : Value) : Bound (List PatternLocation) := do
  let entries ← v.entriesOf "InsertionPoint"
  ((FieldKey.plain "patterns").required entries (sequenceOf PatternLocation.ofValue)).refuse
    (FieldKey.unused [.plain "patterns"] entries)

namespace SmartInsertion

/-- The fields of a smart insertion. -/
def fieldKeys : List FieldKey := [.plain "semantic", ⟨"findInsertionPoint", "find_insertion_point"⟩,
  .plain "content", .plain "conditions", .plain "fallback"]

/-- Binds a smart insertion. -/
def ofValue (v : Value) : Bound SmartInsertion := do
  let entries ← v.entriesOf "SmartInsertion"
  ((Bound.value SmartInsertion.mk).ap (optionalText (.plain "semantic") entries)
    |>.ap ((FieldKey.mk "findInsertionPoint" "find_insertion_point").optional entries none
      (orNull locationsOf))
    |>.ap ((FieldKey.plain "content").required entries asText)
    |>.ap (conditionsField entries)
    |>.ap ((FieldKey.plain "fallback").optional entries [] Insertion.rulesOf)).refuse
      (FieldKey.unused fieldKeys entries)

end SmartInsertion

/-! ## Documents -/

/-- Binds a version, which may be written as a number. -/
def versionText : Value → Bound (Option String)
  | .scalar (.int i) => .ok (some (toString i))
  | .scalar (.float x) => .ok (some x.text)
  | v => orNull asText v

/-- Binds metadata. -/
def RuleMetadata.ofValue (v : Value) : Bound RuleMetadata := do
  let entries ← v.entriesOf "RuleMetadata"
  ((Bound.value RuleMetadata.mk).ap (optionalText (.plain "name") entries)
    |>.ap (optionalText (.plain "description") entries)
    |>.ap ((FieldKey.plain "version").optional entries none versionText)
    |>.ap (optionalText (.plain "author") entries)).refuse
      (FieldKey.unused (["name", "description", "version", "author"].map .plain) entries)

namespace RuleDocument

/-- The fields of a document. -/
def fieldKeys : List FieldKey := [.plain "metadata", .plain "conditions", .plain "insertions",
  .plain "replacements", ⟨"smartReplacements", "smart_replacements"⟩,
  ⟨"smartInsertions", "smart_insertions"⟩, .plain "partials"]

/-- Binds a document. -/
def ofValue (v : Value) : Bound RuleDocument := do
  let entries ← v.entriesOf "RuleDocument"
  ((Bound.value RuleDocument.mk).ap
      ((FieldKey.plain "metadata").optional entries none (orNull RuleMetadata.ofValue))
    |>.ap (conditionsField entries)
    |>.ap ((FieldKey.plain "insertions").optional entries [] (sequenceOf Insertion.chainOf))
    |>.ap ((FieldKey.plain "replacements").optional entries [] (sequenceOf Replacement.chainOf))
    |>.ap ((FieldKey.mk "smartReplacements" "smart_replacements").optional entries []
      (sequenceOf SmartReplacement.ofValue))
    |>.ap ((FieldKey.mk "smartInsertions" "smart_insertions").optional entries []
      (sequenceOf SmartInsertion.ofValue))
    |>.ap ((FieldKey.plain "partials").optional entries [] (asTable asText))).refuse
      (FieldKey.unused fieldKeys entries)

end RuleDocument

end TemplateRules
