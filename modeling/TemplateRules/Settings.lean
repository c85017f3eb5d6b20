import TemplateRules.File.Path
import TemplateRules.Rule.Reading
import TemplateRules.Source
import TemplateRules.Value.LooseScalar

/-!
# Settings

The settings of a run: the generator and its version, the sources to use, where the user's files are,
the properties of the project, and limits. Properties and the names of sources may be values of any
kind and are used as texts.

## Main definitions

* `Settings`: the settings, with `Settings.ofView` and `Settings.toValue`
* `Settings.within`: settings whose directories are relative to another one
-/

namespace TemplateRules

/-- The settings of a run. -/
structure Settings where
  generator : String
  generatorVersion : Option String
  toolVersion : String
  /-- The names of source categories, highest first. -/
  sources : List String
  /-- Where the user's templates are. -/
  templates : Option Path
  /-- Where the user's rule documents are. -/
  documents : Option Path
  properties : Table String
  limit : Int
  debug : Bool

namespace Settings

/-- The generator whose templates are meant unless another one is named. -/
def defaultGenerator : String := "spring"

/-- The version of this tool. -/
def currentVersion : String := "0.1.0"

/-! ## Binding -/

section Binding

variable {ρ : Type} (v : View ρ)

/-- Binds a scalar. -/
def scalarOf {α : Type} (bind : Scalar → Bound α) (fault : FieldFault) (r : ρ) : Bound α :=
  match v.layer r with
  | .scalar s => bind s
  | _ => .misfit fault

/-- Binds a text. -/
def textOf (r : ρ) : Bound String := scalarOf v (fun s => Value.asText (.scalar s)) .notText r

/-- Binds a part that may be null. -/
def orNull {α : Type} (bind : ρ → Bound α) (r : ρ) : Bound (Option α) :=
  match v.layer r with
  | .scalar .null => .ok none
  | _ => (bind r).map some

/-- Binds the names of sources: whatever a list holds is used as a text. -/
def sourcesOf (r : ρ) : Bound (List String) :=
  let used (part : ρ) := Text.strip (v.plain part)
  match v.layer r with
  | .list items => .ok (items.map used)
  | .pair a b => .ok [used a, used b]
  | .members keys => Bound.items (fun k => Value.asText (.scalar k)) 0 keys
  | _ => .misfit .notTuple

/-- The text of a property. -/
def propertyText (r : ρ) : String :=
  match v.layer r with
  | .scalar (.bool b) => if b then "true" else "false"
  | .scalar .null => ""
  | _ => v.plain r

/-- Binds properties: keys and values of any kind are used as texts. -/
def propertiesOf (r : ρ) : Bound (Table String) :=
  match v.layer r with
  | .map entries => .ok (.ofEntries (entries.map fun (k, value) => (k.plain, propertyText v value)))
  | _ => .misfit .notMap

/-- Binds a path. -/
def pathOf (r : ρ) : Bound Path :=
  scalarOf v (fun s => match s with
    | .text t => .ok (.ofText t)
    | _ => .misfit .notPath) .notPath r

/-- Binds a limit, which is at least one. -/
def limitOf (r : ρ) : Bound Int := do
  let i ← scalarOf v Scalar.asInteger .notInteger r
  if i < 1 then .misfit (.below 1) else .ok i

/-- The fields of settings. -/
def fieldKeys : List FieldKey := [
  ⟨"generatorName", "generator_name"⟩,
  ⟨"generatorVersion", "generator_version"⟩,
  ⟨"toolVersion", "tool_version"⟩,
  ⟨"templateSources", "template_sources"⟩,
  ⟨"userTemplatesDir", "user_templates_dir"⟩,
  ⟨"userCustomizationsDir", "user_customizations_dir"⟩,
  ⟨"projectProperties", "project_properties"⟩,
  ⟨"maxFallbackDepth", "max_fallback_depth"⟩,
  .plain "debug"]

/-- Binds the entries of a map to settings. -/
def ofEntries (entries : List (Scalar × ρ)) : Bound Settings :=
  let field {α : Type} (key name : String) (default : α) (bind : ρ → Bound α) : Bound α :=
    (FieldKey.mk key name).optional entries default bind
  ((Bound.value Settings.mk).ap (field "generatorName" "generator_name" defaultGenerator (textOf v))
    |>.ap (field "generatorVersion" "generator_version" none (orNull v (textOf v)))
    |>.ap (field "toolVersion" "tool_version" currentVersion (textOf v))
    |>.ap (field "templateSources" "template_sources" Source.defaultNames (sourcesOf v))
    |>.ap (field "userTemplatesDir" "user_templates_dir" none (orNull v (pathOf v)))
    |>.ap (field "userCustomizationsDir" "user_customizations_dir" none (orNull v (pathOf v)))
    |>.ap (field "projectProperties" "project_properties" [] (propertiesOf v))
    |>.ap (field "maxFallbackDepth" "max_fallback_depth" RuleDocument.defaultLimit (limitOf v))
    |>.ap (field "debug" "debug" false (scalarOf v Scalar.asTruth .notTruthValue))).refuse
      (FieldKey.unused fieldKeys entries)

/-- Binds settings. -/
def ofView (r : ρ) : Bound Settings :=
  match v.layer r with
  | .map entries => ofEntries v entries
  | _ => .misfit (.notModel "TailorSettings")

end Binding

/-- The settings of a run that nothing is said about. -/
def default : Settings := ⟨defaultGenerator, none, currentVersion, Source.defaultNames, none, none, [],
  RuleDocument.defaultLimit, false⟩

/-- The settings with their directories relative to another one. -/
def within (s : Settings) (directory : Path) : Settings :=
  { s with templates := s.templates.map directory.join, documents := s.documents.map directory.join }

/-! ## Values -/

/-- A path or null as a value. -/
def pathValue (p : Option Path) : Value := .ofText? (p.map Path.text)

/-- Settings as a value; what is absent is null. -/
def toValue (s : Settings) : Value := .ofFields [
  ("generatorName", .text s.generator),
  ("generatorVersion", .ofText? s.generatorVersion),
  ("toolVersion", .text s.toolVersion),
  ("templateSources", .ofTexts s.sources),
  ("userTemplatesDir", pathValue s.templates),
  ("userCustomizationsDir", pathValue s.documents),
  ("projectProperties", .ofFields (s.properties.map fun (k, text) => (k, .text text))),
  ("maxFallbackDepth", .scalar (.int s.limit)),
  ("debug", .scalar (.bool s.debug))]

end Settings

end TemplateRules
