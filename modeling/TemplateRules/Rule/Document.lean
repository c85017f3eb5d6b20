import TemplateRules.Edit.Locator
import TemplateRules.Rule.Conditions
import TemplateRules.Table

/-!
# Rule documents

A rule document says how one template is changed: insertions next to anchors, replacements of texts
and patterns, and the smart variants of both, whose place is found from candidates or by a name. Each
rule may have conditions, and insertions and replacements may fall back on others where their
conditions do not hold.

## Main definitions

* `Chain`: a rule and its fallbacks
* `Insertion`, `Replacement`, `SmartInsertion`, `SmartReplacement`: the rules
* `RuleDocument`: a document, with `RuleDocument.toValue`, its value with every field
-/

namespace TemplateRules

/-! ## Rules -/

/-- A rule and its fallbacks, nearest first. -/
structure Chain (α : Type) where
  first : α
  fallbacks : List α
deriving DecidableEq

/-- All rules of a chain in order. -/
def Chain.rules {α : Type} (c : Chain α) : List α := c.first :: c.fallbacks

/-- An insertion of content after or before an anchor, or at the edge named `start` or `end`. -/
structure Insertion where
  after : Option String
  before : Option String
  edge : Option String
  content : String
  conditions : Option ConditionSet

/-- How the text to be found is meant. -/
inductive ReplacementKind where
  | literal
  | pattern
deriving DecidableEq

/-- The word for a kind of replacement. -/
def ReplacementKind.word : ReplacementKind → String
  | .literal => "string"
  | .pattern => "regex"

/-- The kind that a word names. -/
def ReplacementKind.ofWord? (word : String) : Option ReplacementKind :=
  if word = "string" then some .literal else if word = "regex" then some .pattern else none

/-- A replacement of every occurrence of a literal text, or of every match of a pattern. -/
structure Replacement where
  find : String
  replacement : String
  kind : ReplacementKind
  conditions : Option ConditionSet

/-- Literal variants of one logical pattern, in order. -/
structure VariantPattern where
  label : String
  variants : List String
deriving DecidableEq

/-- A replacement whose target is found from candidates, by the name of a point, or from variants. -/
structure SmartReplacement where
  candidates : Option (List String)
  point : Option String
  variants : Option VariantPattern
  replacement : String
  conditions : Option ConditionSet

/-- An insertion whose place is found by the name of a point or from locations. -/
structure SmartInsertion where
  point : Option String
  locations : Option (List PatternLocation)
  content : String
  conditions : Option ConditionSet
  fallbacks : List Insertion

/-- What a document says about itself. -/
structure RuleMetadata where
  name : Option String
  description : Option String
  version : Option String
  author : Option String
deriving DecidableEq

/-- A rule document. -/
structure RuleDocument where
  metadata : Option RuleMetadata
  conditions : Option ConditionSet
  insertions : List (Chain Insertion)
  replacements : List (Chain Replacement)
  smartReplacements : List SmartReplacement
  smartInsertions : List SmartInsertion
  partials : Table String

namespace RuleDocument

/-- The number of rules of each category, by the key of the category. -/
def categoryCounts (d : RuleDocument) : List (String × Nat) := [
  ("insertions", d.insertions.length),
  ("replacements", d.replacements.length),
  ("smartReplacements", d.smartReplacements.length),
  ("smartInsertions", d.smartInsertions.length)]

/-- The number of rules. -/
def ruleCount (d : RuleDocument) : Nat :=
  d.insertions.length + d.replacements.length + d.smartReplacements.length + d.smartInsertions.length

end RuleDocument

/-! ## Values -/

/-- An insertion as a value, with the value of its fallback. -/
def Insertion.toValue (fallback : Value) (i : Insertion) : Value := .ofFields [
  ("after", .ofText? i.after),
  ("before", .ofText? i.before),
  ("at", .ofText? i.edge),
  ("content", .text i.content),
  ("conditions", ConditionSet.optionValue i.conditions),
  ("fallback", fallback)]

/-- A replacement as a value, with the value of its fallback. -/
def Replacement.toValue (fallback : Value) (r : Replacement) : Value := .ofFields [
  ("find", .text r.find),
  ("replace", .text r.replacement),
  ("type", .text r.kind.word),
  ("conditions", ConditionSet.optionValue r.conditions),
  ("fallback", fallback)]

/-- Rules of which each one is the fallback of the one before; no rules are null. -/
def chainValue {α : Type} (toValue : Value → α → Value) (rules : List α) : Value :=
  rules.foldr (fun rule fallback => toValue fallback rule) .null

/-- A chain as a value. -/
def Chain.toValue {α : Type} (toValue : Value → α → Value) (c : Chain α) : Value :=
  chainValue toValue c.rules

/-- Variants as a value. -/
def VariantPattern.toValue (p : VariantPattern) : Value :=
  .ofFields [("type", .text p.label), ("variants", .ofTexts p.variants)]

/-- A smart replacement as a value. -/
def SmartReplacement.toValue (r : SmartReplacement) : Value := .ofFields [
  ("findAny", .ofTexts? r.candidates),
  ("semantic", .ofText? r.point),
  ("findPattern", (r.variants.map VariantPattern.toValue).getD .null),
  ("replace", .text r.replacement),
  ("conditions", ConditionSet.optionValue r.conditions)]

/-- A location as a value. -/
def PatternLocation.toValue (l : PatternLocation) : Value :=
  .ofFields [("after", .ofText? l.after), ("before", .ofText? l.before)]

/-- Locations as a value. -/
def locationsValue (ls : List PatternLocation) : Value :=
  .ofFields [("patterns", .list (ls.map PatternLocation.toValue))]

/-- A smart insertion as a value. -/
def SmartInsertion.toValue (i : SmartInsertion) : Value := .ofFields [
  ("semantic", .ofText? i.point),
  ("findInsertionPoint", (i.locations.map locationsValue).getD .null),
  ("content", .text i.content),
  ("conditions", ConditionSet.optionValue i.conditions),
  ("fallback", chainValue Insertion.toValue i.fallbacks)]

/-- Metadata as a value. -/
def RuleMetadata.toValue (m : RuleMetadata) : Value := .ofFields [
  ("name", .ofText? m.name),
  ("description", .ofText? m.description),
  ("version", .ofText? m.version),
  ("author", .ofText? m.author)]

/-- A document as a value; what is absent is null. -/
def RuleDocument.toValue (d : RuleDocument) : Value := .ofFields [
  ("metadata", (d.metadata.map RuleMetadata.toValue).getD .null),
  ("conditions", ConditionSet.optionValue d.conditions),
  ("insertions", .list (d.insertions.map (Chain.toValue Insertion.toValue))),
  ("replacements", .list (d.replacements.map (Chain.toValue Replacement.toValue))),
  ("smartReplacements", .list (d.smartReplacements.map SmartReplacement.toValue)),
  ("smartInsertions", .list (d.smartInsertions.map SmartInsertion.toValue)),
  ("partials", .ofFields (d.partials.map fun (name, body) => (name, .text body)))]

end TemplateRules
