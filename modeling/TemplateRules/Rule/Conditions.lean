import TemplateRules.Value.Tree

/-!
# Condition sets

A condition set is a conjunction of clauses about the template, the generator and the project. The
clauses `allOf`, `anyOf` and `not` nest further sets and take part in the same conjunction.
-/

namespace TemplateRules

/-- The clauses of a condition set that nest no further sets. -/
structure Clauses where
  generatorVersion : Option String
  templateContains : Option String
  templateNotContains : Option String
  templateContainsAll : Option (List String)
  templateContainsAny : Option (List String)
  hasFeature : Option String
  hasAllFeatures : Option (List String)
  hasAnyFeatures : Option (List String)
  projectProperty : Option String
  environmentVariable : Option String
  buildType : Option String
deriving DecidableEq

/-- A condition set: its plain clauses, the sets of which all or some must hold, and the set that must
not. -/
inductive ConditionSet where
  | mk (clauses : Clauses) (allOf anyOf : Option (List ConditionSet)) (negated : Option ConditionSet)

/-! ## Parts as values -/

namespace Value

/-- The null value. -/
abbrev null : Value := .scalar .null

/-- A text or null. -/
def ofText? : Option String → Value
  | none => null
  | some s => text s

/-- A list of texts. -/
def ofTexts (xs : List String) : Value := .list (xs.map text)

/-- A list of texts or null. -/
def ofTexts? : Option (List String) → Value
  | none => null
  | some xs => ofTexts xs

/-- A map with texts as keys. -/
def ofFields (fields : List (String × Value)) : Value :=
  .map (fields.map fun (k, v) => (.text k, v))

end Value

/-- The plain clauses as the fields of a map. -/
def Clauses.fields (c : Clauses) : List (String × Value) := [
  ("generatorVersion", .ofText? c.generatorVersion),
  ("templateContains", .ofText? c.templateContains),
  ("templateNotContains", .ofText? c.templateNotContains),
  ("templateContainsAll", .ofTexts? c.templateContainsAll),
  ("templateContainsAny", .ofTexts? c.templateContainsAny),
  ("hasFeature", .ofText? c.hasFeature),
  ("hasAllFeatures", .ofTexts? c.hasAllFeatures),
  ("hasAnyFeatures", .ofTexts? c.hasAnyFeatures),
  ("projectProperty", .ofText? c.projectProperty),
  ("environmentVariable", .ofText? c.environmentVariable),
  ("buildType", .ofText? c.buildType)]

namespace ConditionSet

mutual

/-- A condition set as a value; what is absent is null. -/
def toValue : ConditionSet → Value
  | .mk clauses allOf anyOf negated =>
    .ofFields (clauses.fields ++
      [("allOf", listValue allOf), ("anyOf", listValue anyOf), ("not", optionValue negated)])

/-- Nested sets as a value. -/
def listValue : Option (List ConditionSet) → Value
  | none => .null
  | some cs => .list (itemValues cs)

/-- The values of nested sets. -/
def itemValues : List ConditionSet → List Value
  | [] => []
  | c :: cs => c.toValue :: itemValues cs

/-- A set that may be absent as a value. -/
def optionValue : Option ConditionSet → Value
  | none => .null
  | some c => c.toValue

end

end ConditionSet

end TemplateRules
