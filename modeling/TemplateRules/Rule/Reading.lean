import TemplateRules.Rule.Binding
import TemplateRules.Rule.Completeness
import TemplateRules.Rule.Structure
import TemplateRules.Yaml.Document

/-!
# Reading rule documents

The text of a rule document is read in stages, each of which may refuse it: its notation, the
structure of its value, the types of its fields, the number of its rules, and what they say.

## Main definitions

* `RuleDocument.ofGraph`: the document that a value describes
* `RuleDocument.ofText`: the document that a text writes
* `RuleDocument.parse`: the same with a record of the outcome
-/

namespace TemplateRules.RuleDocument

/-- The greatest number of fallbacks and levels of conditions, unless another one is asked for. -/
def defaultLimit : Int := 8

/-- A configuration error about a document. -/
def refusal {α : Type} (source : String) (cause : ConfigurationCause) : Except Failure α :=
  .error (.configuration ⟨source, cause⟩)

/-- Refuses a document with problems. -/
def checkProblems (d : RuleDocument) (source : String) : Except Failure Unit :=
  match d.problems with
  | .error defect => .error (.defect defect)
  | .ok [] => .ok ()
  | .ok problems => refusal source (.invalid problems)

/-- The document that a value describes. -/
def ofGraph (limit : Int) (source : String) (g : Graph) (root : Ref) : Except Failure RuleDocument := do
  Structure.check g.view limit source root
  match RuleDocument.ofValue (g.unfold root) with
  | .error problems => refusal source (.unbound problems)
  | .ok d =>
    d.checkCompleteness g.view root source
    d.checkProblems source
    return d

/-- The document that a text writes. -/
def ofText (limit : Int) (source text : String) : Except Failure RuleDocument :=
  match Yaml.readDocument text with
  | .error .malformed => refusal source .malformedText
  | .error (.defect d) => .error (.defect d)
  | .ok (g, root) => ofGraph limit source g root

/-- The number of rules of each category, as records show it. -/
def countsText (d : RuleDocument) : String :=
  "\x7b" ++ ", ".intercalate (d.categoryCounts.map fun (k, n) => Text.quoted k ++ s!": {n}") ++ "\x7d"

/-- The document that a text writes, with a record of it. -/
def parse (limit : Int) (source text : String) : Attempt RuleDocument := do
  let d ← liftM (ofText limit source text)
  Attempt.note .debug .engine ("Parsed " ++ source ++ s!": {d.ruleCount} rule(s) " ++ d.countsText)
  return d

end TemplateRules.RuleDocument
