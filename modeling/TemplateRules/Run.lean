import TemplateRules.Engine
import TemplateRules.Library
import TemplateRules.Settings.Reading

/-!
# Runs

A run customizes templates with what its settings, its libraries and the host provide. It remembers the
documents that it has read by their names, the libraries that it may use, and the results of the engine.

## Main definitions

* `Run`: what a run goes by
* `Memory`: what it remembers
* `Run.availability`: whether a category of sources can take part
* `Run.resolve`: the categories that the run works with
-/

namespace TemplateRules

/-- What a run goes by. -/
structure Run where
  settings : Settings
  libraries : List Library
  /-- Built-in rule documents, by generator and file name. -/
  builtIn : Table String
  /-- The variables, in characters; a surrogate in one of them is met in applying a document to what the host
  gives. -/
  environment : Table String
  files : FileTree

/-- What a run remembers. -/
structure Memory where
  /-- The documents that were read, by their names, latest first. -/
  documents : List (String × RuleDocument)
  /-- The libraries that may be used, once that is known. -/
  compatible : Option (List Library)
  results : Results

/-- The memory of a run that has done nothing. -/
def Memory.empty : Memory := ⟨[], none, .empty⟩

/-- Work of a run that leaves a trace. -/
abbrev Recalling (α : Type) := Source.Tracking Memory α

/-- Work of a run that may fail. What it has remembered before a failure stays. -/
abbrev Working (α : Type) := ExceptT Failure (StateT Memory Traced) α

namespace Run

/-- Work that uses no memory. -/
def attempting {α : Type} (a : Attempt α) : Working α := ExceptT.mk (StateT.lift a.run)

/-- Work that cannot fail. -/
def recalling {α : Type} (a : Recalling α) : Working α := ExceptT.lift a

/-! ## Libraries -/

/-- The libraries that may be used, with records of those that may not. -/
def usableLibraries (r : Run) : List Library → Traced (List Library)
  | [] => pure []
  | l :: ls => do
    let reason ← l.incompatibility? r.settings.generator r.settings.generatorVersion
      (some r.settings.toolVersion)
    match reason with
    | none => return l :: (← r.usableLibraries ls)
    | some reason =>
      Traced.note .info .sources ("Skipping library content: " ++ reason.message l.name)
      r.usableLibraries ls

/-- The libraries that may be used, found out once. -/
def compatible (r : Run) : Recalling (List Library) := do
  match (← get).compatible with
  | some ls => return ls
  | none =>
    let ls ← r.usableLibraries r.libraries
    modify fun m => { m with compatible := some ls }
    return ls

/-! ## Availability -/

/-- The ending of the names of template files. -/
def templateEnding : String := ".mustache"

/-- Whether a directory holds files whose names have one of the endings. -/
def filesIn (files : FileTree) (directory : Option Path) (endings : List String) : Source.Availability :=
  match directory with
  | none => .no "Directory not configured"
  | some d =>
    if !files.isDirectory d then .no ("Directory does not exist: " ++ d.text)
    else match endings.find? (files.hasBelow d) with
      | some ending => .yes ("Found *" ++ ending ++ " files in " ++ d.text)
      | none => .no ("No " ++ "/".intercalate (endings.map ("*" ++ ·)) ++ " files in " ++ d.text)

/-- Whether libraries carry content of a kind. -/
def carriedBy (kind : String) (carriers : List Library) : Source.Availability :=
  if carriers.isEmpty then .no ("No compatible library provides " ++ kind)
  else .yes ("Library " ++ kind ++ " from " ++ Text.quotedList (carriers.map Library.name))

/-- Whether a category can take part in the run. -/
def availability (r : Run) (s : Source) : Recalling Source.Availability :=
  let generator := r.settings.generator
  match s with
  | .userTemplates => return filesIn r.files r.settings.templates [templateEnding]
  | .userCustomizations =>
    return filesIn r.files r.settings.documents Library.documentEndings
  | .libraryTemplates =>
    return carriedBy "templates"
      ((← r.compatible).filter fun l => !(l.templatesFor generator).isEmpty)
  | .libraryCustomizations =>
    return carriedBy "customizations"
      ((← r.compatible).filter fun l => !(l.documentsFor generator).isEmpty)
  | .pluginCustomizations => return .yes "Built-in customizations"
  | .generator => return .yes "Base generator templates are always available"

/-- Whether each category can take part in the run. -/
def report (r : Run) : Recalling (List (Source × Source.Availability)) :=
  Source.all.mapM fun s => return (s, ← r.availability s)

/-- The categories that the run works with, of those that are requested or else configured. -/
def resolve (r : Run) (requested : Option (List String)) : Recalling (List Source) :=
  Source.resolve (requested.getD r.settings.sources) r.availability

/-- Forgets the results of the engine. -/
def clear : Recalling Unit := do
  let kept ← Engine.clear (← get).results
  modify fun m => { m with results := kept }

end Run

end TemplateRules
