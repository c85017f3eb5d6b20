import TemplateRules.Run

/-!
# Customizing templates

A template passes through the categories of sources from the lowest to the highest, so that what a
higher one changes is not changed again by a lower one. A full template takes the place of the text that
was there; a rule document changes it. A document that cannot be read or applied is passed over with a
warning, and the text stays as it was before.

## Main definitions

* `Run.applySource`: the text after one category
* `Run.customize`: the outcome for one template
* `Run.customizeAll`: the outcomes for all templates of a run
-/

namespace TemplateRules

/-- The outcome of customizing one template. -/
structure Customized where
  template : String
  content : String
  /-- The digest of the base template. -/
  baseDigest : String
  /-- The categories that changed the text, lowest first. -/
  applied : List Source
deriving DecidableEq

namespace Customized

/-- The digest of the content. -/
def contentDigest (c : Customized) : String := Digest.sha256 c.content

/-- Whether the content differs from the base template. -/
def isChanged (c : Customized) : Bool := c.contentDigest != c.baseDigest

end Customized

namespace Run

/-- Leaves a record about sources. -/
def note (level : Level) (text : String) : Working Unit := recalling (Source.note level text)

/-! ## Rule documents -/

/-- What conditions see while a source works on a template. The run's own entries win over properties
of the same name. -/
def context (r : Run) (s : Source) (template text : String) : Context where
  generatorVersion := r.settings.generatorVersion
  template := some text
  properties := r.settings.properties.putAll [
    ("generatorName", r.settings.generator),
    ("templateName", template),
    ("templateSource", s.name),
    ("debug", if r.settings.debug then "true" else "false")]
  environment := r.environment
  detector := .markers

/-- The document of a name, read once. -/
def document (r : Run) (name rules : String) : Working RuleDocument := do
  match (← get).documents.lookup name with
  -- The name decides, also if the text has changed since.
  | some d => return d
  | none =>
    let d ← attempting (RuleDocument.parse r.settings.limit name rules)
    modify fun m => { m with documents := (name, d) :: m.documents }
    return d

/-- Applies a document, using and keeping results. -/
def applyDocument (r : Run) (d : RuleDocument) (s : Source) (template text : String) :
    Working String := do
  let (result, kept) ← attempting
    (Engine.apply r.settings.limit (← get).results text (some d) (r.context s template text) template)
  modify fun m => { m with results := kept }
  return result

/-- Passes over a document with a warning; a defect of the input is passed on. -/
def passOver (s : Source) (name template text : String) : Failure → Working String
  | .defect d => throw (.defect d)
  | failure => do
    note .warning ("Skipping " ++ s.name ++ " customization " ++ name ++ " for " ++ template ++ ": "
      ++ failure.message)
    return text

/-- Reads and applies a rule document; one that fails changes nothing. -/
def applyRules (r : Run) (s : Source) (template text name rules : String) : Working String :=
  tryCatch (do r.applyDocument (← r.document name rules) s template text)
    (passOver s name template text)

/-! ## Categories -/

/-- The name under which a built-in document is reported. -/
def builtInName (key : String) : String := "plugin:" ++ key

/-- The text after the built-in document for a template. -/
def applyBuiltIn (r : Run) (template text : String) : Working String :=
  let keys := Library.documentEndings.map fun e => r.settings.generator ++ "/" ++ template ++ e
  match keys.findSome? fun key => (r.builtIn.lookup key).map ((key, ·)) with
  | none => pure text
  | some (key, rules) => r.applyRules .pluginCustomizations template text (builtInName key) rules

/-- The text after the rule documents of libraries, each applied to what the one before has left. -/
def applyLibraryDocuments (r : Run) (template : String) : List Library → String → Working String
  | [], text => pure text
  | l :: ls, text => do
    let text ← match l.documentFor? r.settings.generator template with
      | none => pure text
      | some rules =>
        r.applyRules .libraryCustomizations template text (l.name ++ ":" ++ template) rules
    r.applyLibraryDocuments template ls text

/-- The text after the templates of libraries, of which the last one counts. -/
def applyLibraryTemplates (r : Run) (template : String) : List Library → String → Working String
  | [], text => pure text
  | l :: ls, text => do
    match (l.templatesFor r.settings.generator).lookup template with
    | none => r.applyLibraryTemplates template ls text
    | some replacement =>
      note .debug ("Using library template " ++ template ++ " from " ++ l.name)
      r.applyLibraryTemplates template ls replacement

/-- The text of a source file. -/
def readSource (r : Run) (path : Path) : Except ConfigurationError String :=
  match r.files.read path with
  | .error fault => .error ⟨path.text, .unreadableSource (some fault)⟩
  | .ok none => .error ⟨path.text, .unreadableSource none⟩
  | .ok (some text) => .ok text

/-- The file of the user's rule document for a template, if there is one. -/
def userDocument? (r : Run) (template : String) : Option Path := do
  let directory := (← r.settings.documents).join (.ofText r.settings.generator)
  (Library.documentEndings.map fun e => directory.join (.ofText (template ++ e))).find? r.files.isFile

/-- The text after the user's rule document for a template. -/
def applyUserDocument (r : Run) (template text : String) : Working String :=
  match r.userDocument? template with
  | none => pure text
  | some path =>
    match r.readSource path with
    | .error e => passOver .userCustomizations path.text template text (.configuration e)
    | .ok rules => r.applyRules .userCustomizations template text path.text rules

/-- The file of the user's template, if there is one. -/
def userTemplate? (r : Run) (template : String) : Option Path := do
  (some ((← r.settings.templates).join (.ofText template))).filter r.files.isFile

/-- The text after the user's template. -/
def applyUserTemplate (r : Run) (template text : String) : Working String :=
  match r.userTemplate? template with
  | none => pure text
  | some path =>
    match r.readSource path with
    | .error e => do
      note .warning ("Skipping user template " ++ path.text ++ ": " ++ e.message)
      return text
    | .ok replacement => do
      note .debug ("Using user template " ++ path.text)
      return replacement

/-- The text after one category of sources. -/
def applySource (r : Run) (s : Source) (template text : String) : Working String :=
  match s with
  | .generator => pure text
  | .pluginCustomizations => r.applyBuiltIn template text
  | .libraryCustomizations => do
    r.applyLibraryDocuments template (← recalling r.compatible) text
  | .libraryTemplates => do
    r.applyLibraryTemplates template (← recalling r.compatible) text
  | .userCustomizations => r.applyUserDocument template text
  | .userTemplates => r.applyUserTemplate template text

/-! ## Templates -/

/-- The text after several categories in order, and those that changed it. -/
def applySources (r : Run) (template : String) :
    List Source → String → Working (String × List Source)
  | [], text => pure (text, [])
  | s :: ss, text => do
    let next ← r.applySource s template text
    let (result, applied) ← r.applySources template ss next
    -- A category that leaves the text as it was is not reported.
    return (result, if next = text then applied else s :: applied)

/-- Customizes one template by categories that are given highest first. -/
def customizeBy (r : Run) (sources : List Source) (template base : String) :
    Working Customized := do
  -- The highest category comes last, so that its changes are final.
  let (content, applied) ← r.applySources template sources.reverse base
  note .debug ("Template " ++ template ++ " customized by "
    ++ Text.quotedList (applied.map Source.name))
  return ⟨template, content, Digest.sha256 base, applied⟩

/-- Customizes one template, by the categories that are available unless others are given. -/
def customize (r : Run) (sources : Option (List Source)) (template base : String) :
    Working Customized := do
  match sources with
  | some sources => r.customizeBy sources template base
  | none => r.customizeBy (← recalling (r.resolve none)) template base

/-- Customizes templates by the same categories, one after the other. -/
def customizeEach (r : Run) (sources : List Source) :
    Table String → Working (List Customized)
  | [] => pure []
  | (template, base) :: rest => do
    let c ← r.customizeBy sources template base
    return c :: (← r.customizeEach sources rest)

/-- Customizes all templates of a run. -/
def customizeAll (r : Run) (bases : Table String) : Working (List Customized) := do
  let sources ← recalling (r.resolve none)
  let outcomes ← r.customizeEach sources bases
  let changed := Digest.changedEntries (bases.map fun (name, base) => (name, Digest.sha256 base))
    (outcomes.map fun c => (c.template, c.contentDigest))
  note .info s!"Customized {changed.length} of {outcomes.length} template(s)"
  return outcomes

end Run

end TemplateRules
