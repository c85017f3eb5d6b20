import TemplateRules.Failure
import TemplateRules.Rule.Binding
import TemplateRules.Yaml.Document

/-!
# Library manifests

A library may declare which generators it supports and which versions it needs. The declaration is a
document of its own, in which keys that no field knows are allowed.

## Main definitions

* `Manifest`: a declaration, with `Manifest.ofValue` and `Manifest.toValue`
* `Manifest.ofText`: the declaration that a text writes
-/

namespace TemplateRules

/-- What a library declares. An empty list of generators stands for all of them. -/
structure Manifest where
  name : Option String
  version : Option String
  description : Option String
  supportedGenerators : List String
  minToolVersion : Option String
  minGeneratorVersion : Option String
  maxGeneratorVersion : Option String
  features : Table Value
  dependencies : List String

namespace Manifest

open Value (asTexts asTable)

/-- The declaration of nothing. -/
def empty : Manifest := ⟨none, none, none, [], none, none, none, [], []⟩

/-- Binds a manifest. -/
def ofValue (v : Value) : Bound Manifest := do
  let entries ← v.entriesOf "CompatibilityManifest"
  (Bound.value Manifest.mk).ap (optionalText (.plain "name") entries)
    |>.ap (optionalText (.plain "version") entries)
    |>.ap (optionalText (.plain "description") entries)
    |>.ap ((FieldKey.mk "supportedGenerators" "supported_generators").optional entries [] asTexts)
    |>.ap (optionalText ⟨"minToolVersion", "min_tool_version"⟩ entries)
    |>.ap (optionalText ⟨"minGeneratorVersion", "min_generator_version"⟩ entries)
    |>.ap (optionalText ⟨"maxGeneratorVersion", "max_generator_version"⟩ entries)
    |>.ap ((FieldKey.plain "features").optional entries [] (asTable Bound.value))
    |>.ap ((FieldKey.plain "dependencies").optional entries [] asTexts)

/-- A manifest as a value; what is absent is null. -/
def toValue (m : Manifest) : Value := .ofFields [
  ("name", .ofText? m.name),
  ("version", .ofText? m.version),
  ("description", .ofText? m.description),
  ("supportedGenerators", .ofTexts m.supportedGenerators),
  ("minToolVersion", .ofText? m.minToolVersion),
  ("minGeneratorVersion", .ofText? m.minGeneratorVersion),
  ("maxGeneratorVersion", .ofText? m.maxGeneratorVersion),
  ("features", .ofFields m.features),
  ("dependencies", .ofTexts m.dependencies)]

/-- A manifest error about a document. -/
def refusal {α : Type} (source : String) (cause : ManifestCause) : Except Failure α :=
  .error (.manifest ⟨source, cause⟩)

/-- The manifest that a value describes; null describes the empty one. -/
def ofDocument (source : String) : Value → Except Failure Manifest
  | .scalar .null => .ok empty
  | .map entries =>
    match ofValue (.map entries) with
    | .ok m => .ok m
    | .error problems => refusal source (.invalid problems)
  | _ => refusal source .notMap

/-- The manifest that a text writes. -/
def ofText (source text : String) : Except Failure Manifest :=
  match Yaml.readDocument text with
  | .error .malformed => refusal source .malformedText
  | .error (.defect d) => .error (.defect d)
  | .ok (g, root) => ofDocument source (g.unfold root)

end Manifest

end TemplateRules
