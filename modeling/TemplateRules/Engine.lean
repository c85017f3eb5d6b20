import TemplateRules.Cache
import TemplateRules.Digest.Fingerprint
import TemplateRules.Rule.Application
import TemplateRules.Rule.FingerprintText

/-!
# Applying documents with a cache

Results are kept in a cache under a digest of everything that they depend on, so that applying the same
document to the same template in the same context does the work once. The cache may be shared by
engines with different limits.

## Main definitions

* `Context.parts`: what a result depends on, as labelled parts
* `Engine.apply`: application of a document, with the cache before and after
-/

namespace TemplateRules

/-- The results that are kept, by the digests of what they depend on. -/
abbrev Results := Cache String

/-- The name of a way to detect features. Tables of answers share one name. -/
def Detector.name : Detector → String
  | .markers => "markers"
  | .answers _ => "answers"

/-- The name of a template whose name is not known. -/
def unknownTemplate : String := "unknown template"

/-- The name of a template: the given one, or else the property `templateName`. Empty names do not
count. -/
def Context.templateName (x : Context) (given : Option String) : String :=
  let named (s : Option String) := s.filter fun s => !s.isEmpty
  ((named given).or (named (x.propertyValue? "templateName"))).getD unknownTemplate

/-- What the result of applying a document depends on. -/
def Context.parts (x : Context) (template : String) (d : RuleDocument) : List Digest.Part := [
  ("template", some template),
  ("document", some d.fingerprintText),
  ("snapshot", x.template),
  ("generatorVersion", x.generatorVersion),
  ("properties", some (Digest.mappingText x.properties)),
  ("environment", some (Digest.mappingText x.environment)),
  ("featureDetector", some x.detector.name)]

/-- The key of the result of applying a document. -/
def Context.resultKey (x : Context) (template : String) (d : RuleDocument) : String :=
  Digest.fingerprint (x.parts template d)

namespace Engine

/-- A pass whose defects are failures to apply the document to its template. -/
def run (p : Pass) (d : RuleDocument) (template : String) : Attempt String :=
  tryCatch (p.applyDocument d template) fun
    | .defect defect => p.refuse (.unexpected defect)
    | failure => throw failure

/-- Applies a document to a template whose result is not kept yet. -/
def compute (limit : Int) (template : String) (d : RuleDocument) (x : Context) (name : String) :
    Attempt String :=
  run ⟨name, limit, x, d.partials⟩ d template

/-- Applies a document, if there is one, to a template. Failures are not kept. -/
def apply (limit : Int) (kept : Results) (template : String) (document : Option RuleDocument)
    (x : Context) (given : Option String) : Attempt (String × Results) :=
  match document with
  | none => pure (template, kept)
  | some d => do
    let name := x.templateName given
    let key := x.resultKey template d
    match kept.get? key with
    | some result =>
      noteRule .debug ("Using cached customization result for " ++ name)
      return (result, kept)
    | none => return kept.put key (← compute limit template d x name)

/-- Forgets every result. -/
def clear (kept : Results) : Traced Results := do
  let (dropped, kept) := kept.clear
  Traced.note .debug .engine s!"Cleared {dropped} cached customization result(s)"
  return kept

end Engine

end TemplateRules
