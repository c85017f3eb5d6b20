import TemplateRules.Condition.Context
import TemplateRules.Rule.Conditions
import TemplateRules.Text.Quoted
import TemplateRules.Version.Constraint

/-!
# Evaluating condition sets

A condition set holds if every clause that is present holds, every set under `allOf`, some set under
`anyOf`, and not the set under `not`. Clauses are looked at in their order and evaluation stops at the
first one that fails, which leaves a record. Evaluation always has an answer: a version constraint
that cannot be read does not hold, and none holds of a numeral that is too long to be read.

## Main definitions

* `Clauses.evaluate`, `ConditionSet.evaluate`: evaluation with remembered probes
* `Context.meets`: whether a context meets conditions that may be absent
-/

namespace TemplateRules

open Text

/-- Leaves a record of a clause that fails. -/
def noteClause (text : String) : Probing Unit := Traced.note .debug .conditions text

/-- A clause that fails leaves a record. -/
def clauseFails (text : String) : Probing Bool := do
  noteClause text
  return false

/-- Whether all of some probes are answered yes; they are asked up to the first no, which leaves the
record of its probe. -/
def allOrNote (ask : String → Probing Bool) (record : String → String) : List String → Probing Bool
  | [] => pure true
  | x :: xs => do if ← ask x then allOrNote ask record xs else clauseFails (record x)

/-- Whether some of the probes is answered yes; they are asked up to the first yes. -/
def anyOf (ask : String → Probing Bool) : List String → Probing Bool
  | [] => pure false
  | x :: xs => do if ← ask x then return true else anyOf ask xs

/-- A text that may be absent, as records show it. -/
def shownText (s : Option String) : String := s.getD "None"

/-- Texts as records show a fixed sequence of them. -/
def quotedSequence : List String → String
  | [x] => "(" ++ quoted x ++ ",)"
  | xs => "(" ++ ", ".intercalate (xs.map quoted) ++ ")"

/-- Whether a version satisfies the constraint that a text writes; one that cannot be judged does not. -/
def versionMeets (constraint : String) (version : Option String) : Probing Bool :=
  match judge version constraint with
  | .ok answer => pure answer
  | .error fault => do
    Traced.note .warning .conditions ("Invalid version constraint '" ++ constraint ++ "' for version '"
      ++ shownText version ++ "': " ++ fault.message constraint)
    return false

/-- A clause that holds if it is absent. -/
def clause {α : Type} (value : Option α) (check : α → Probing Bool) : Probing Bool :=
  match value with
  | none => pure true
  | some a => check a

/-- Checks in order, up to the first that fails. -/
def allInOrder : List (Probing Bool) → Probing Bool
  | [] => pure true
  | check :: checks => do if ← check then allInOrder checks else return false

/-- A check that leaves a record if it fails. -/
def orNote (check : Probing Bool) (record : String) : Probing Bool := do
  if ← check then return true else clauseFails record

namespace Clauses

/-- The checks of the plain clauses, in order. -/
def checks (c : Clauses) (x : Context) : List (Probing Bool) := [
  clause c.generatorVersion fun v => orNote (versionMeets v x.generatorVersion)
    ("Version constraint not met: " ++ v ++ " vs " ++ shownText x.generatorVersion),
  clause c.templateContains fun p => orNote (x.templateContains p)
    ("Template does not contain required pattern: " ++ quoted p),
  clause c.templateNotContains fun p => orNote (do return !(← x.templateContains p))
    ("Template contains forbidden pattern: " ++ quoted p),
  clause c.templateContainsAll fun ps => allOrNote x.templateContains
    (fun p => "Template is missing pattern from 'all' list: " ++ quoted p) ps,
  clause c.templateContainsAny fun ps => orNote (anyOf x.templateContains ps)
    ("Template contains none of: " ++ quotedSequence ps),
  clause c.hasFeature fun f => orNote (x.hasFeature f) ("Template lacks feature: " ++ f),
  clause c.hasAllFeatures fun fs => allOrNote x.hasFeature
    (fun f => "Template lacks feature from 'all' list: " ++ f) fs,
  clause c.hasAnyFeatures fun fs => orNote (anyOf x.hasFeature fs)
    ("Template has none of the features: " ++ quotedSequence fs),
  clause c.projectProperty fun spec => orNote (pure (x.hasProperty spec))
    ("Project property condition not met: " ++ spec),
  clause c.environmentVariable fun spec => orNote (pure (x.hasVariable spec))
    ("Environment variable condition not met: " ++ spec),
  clause c.buildType fun expected =>
    -- A property is looked at before the environment.
    let actual := (x.propertyValue? "buildType").or (x.environmentValue? "BUILD_TYPE")
    orNote (pure (actual = some expected))
      ("Build type condition not met: expected " ++ expected ++ ", actual " ++ shownText actual)]

/-- Whether the plain clauses hold. -/
def evaluate (c : Clauses) (x : Context) : Probing Bool := allInOrder (c.checks x)

end Clauses

namespace ConditionSet

mutual

/-- Whether a condition set holds. -/
def evaluate (x : Context) : ConditionSet → Probing Bool
  | .mk clauses allOf anyOf negated => do
    if !(← clauses.evaluate x) then return false
    if !(← holdsAll x allOf) then
      clauseFails "allOf condition not met"
    else if !(← holdsAny x anyOf) then
      clauseFails "anyOf condition not met"
    else if ← holdsSome x negated then
      clauseFails "not condition not met"
    else return true

/-- Whether all sets of a list hold; an absent list holds. -/
def holdsAll (x : Context) : Option (List ConditionSet) → Probing Bool
  | none => pure true
  | some cs => allHold x cs

/-- Whether some set of a list holds; an absent list holds. -/
def holdsAny (x : Context) : Option (List ConditionSet) → Probing Bool
  | none => pure true
  | some cs => anyHolds x cs

/-- Whether a set is there and holds. -/
def holdsSome (x : Context) : Option ConditionSet → Probing Bool
  | none => pure false
  | some c => c.evaluate x

/-- Whether all sets hold, up to the first that does not. -/
def allHold (x : Context) : List ConditionSet → Probing Bool
  | [] => pure true
  | c :: cs => do if ← c.evaluate x then allHold x cs else return false

/-- Whether some set holds, up to the first that does. -/
def anyHolds (x : Context) : List ConditionSet → Probing Bool
  | [] => pure false
  | c :: cs => do if ← c.evaluate x then return true else anyHolds x cs

end

/-- Whether conditions hold; absent ones do. -/
def evaluate? (x : Context) : Option ConditionSet → Probing Bool
  | none => pure true
  | some c => c.evaluate x

end ConditionSet

/-- Whether a context meets conditions, with nothing remembered before. -/
def Context.meets (x : Context) (conditions : Option ConditionSet) : Traced Bool := do
  let (answer, _) ← (ConditionSet.evaluate? x conditions).run .empty
  return answer

end TemplateRules
