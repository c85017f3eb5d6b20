import TemplateRules.Library.Compatibility

/-!
# Libraries

A library ships template files and rule documents, each below the name of the generator that it is for,
and may ship a manifest. Files come as a map from paths to contents in a fixed layout.

## Main definitions

* `Library`: the content of a library
* `Library.ofFiles`: the library that files make up
* `Library.templatesFor`, `Library.documentsFor`, `Library.documentFor?`: what there is for a generator
* `Library.incompatibility?`: why a library cannot be used in a run
-/

namespace TemplateRules

/-- The content of a library: template files and rule documents by generator and file name. -/
structure Library where
  name : String
  templates : Table String
  documents : Table String
  manifest : Option Manifest

namespace Library

/-! ## Layout -/

/-- Where templates are. -/
def templatesRoot : String := "META-INF/openapi-templates/"

/-- Where rule documents are. -/
def documentsRoot : String := "META-INF/openapi-customizations/"

/-- Where the manifest is. -/
def manifestPath : String := "META-INF/openapi-library.yaml"

/-- The endings of the names of rule documents, the first of which counts before the second. -/
def documentEndings : List String := [".yaml", ".yml"]

/-- A path with slashes between its names and none in front. -/
def plainPath (path : String) : String :=
  String.ofList ((Text.replaceChar '\\' '/' path).toList.dropWhile (· == '/'))

/-- Whether a path names a generator and a file. -/
def namesFile (path : String) : Bool := path.toList.contains '/'

/-- The name under which the manifest of a library is reported. -/
def manifestSource (library : String) : String := library ++ ":" ++ manifestPath

/-- What a file of a library is. -/
inductive FileRole where
  | manifest
  | template (path : String)
  | document (path : String)
  | other
deriving DecidableEq

/-- The role that the path of a file gives it. -/
def roleOf (path : String) : FileRole :=
  let path := plainPath path
  if path = manifestPath then .manifest
  else match Text.after? templatesRoot path, Text.after? documentsRoot path with
    | some below, _ => if namesFile below then .template below else .other
    -- Other files below the root of rule documents are passed over.
    | none, some below =>
      if namesFile below && documentEndings.any (Text.endsWith below) then .document below else .other
    | none, none => .other

/-! ## Files -/

/-- The library with one more file. -/
def addFile (l : Library) (path content : String) : Except Failure Library :=
  match roleOf path with
  | .manifest => do
    let m ← Manifest.ofText (manifestSource l.name) content
    return { l with manifest := some m }
  | .template below => .ok { l with templates := l.templates.put below content }
  | .document below => .ok { l with documents := l.documents.put below content }
  | .other => .ok l

/-- The library with more files, of which a later one replaces an earlier one of the same place. -/
def addFiles (l : Library) : List (String × String) → Except Failure Library
  | [] => .ok l
  | (path, content) :: rest => do (← l.addFile path content).addFiles rest

/-- The library that files make up, with a record of it. -/
def ofFiles (name : String) (files : Table String) : Attempt Library := do
  let l ← liftM (addFiles ⟨name, [], [], none⟩ files)
  Attempt.note .debug .library ("Library " ++ name
    ++ s!": {l.templates.length} template(s), {l.documents.length} rule document(s), manifest="
    ++ (Scalar.bool l.manifest.isSome).plain)
  return l

/-! ## Content -/

/-- The files of a generator, by their names. -/
def filesFor (files : Table String) (generator : String) : Table String :=
  files.filterMap fun (path, content) => (Text.after? (generator ++ "/") path).map ((·, content))

/-- The templates for a generator. -/
def templatesFor (l : Library) (generator : String) : Table String := filesFor l.templates generator

/-- The rule documents for a generator. -/
def documentsFor (l : Library) (generator : String) : Table String := filesFor l.documents generator

/-- The rule document for a template of a generator. -/
def documentFor? (l : Library) (generator template : String) : Option String :=
  documentEndings.findSome? fun ending => (l.documentsFor generator).lookup (template ++ ending)

/-! ## Compatibility -/

/-- Why a library cannot be used, with a record if bounds are passed over. A library without a manifest
can always be used. -/
def incompatibility? (l : Library) (generator : String) (version tool : Option String) :
    Traced (Option Incompatibility) :=
  match l.manifest with
  | none => pure none
  | some m => do
    if m.passesOverBounds generator version tool then
      Traced.note .warning .library ("Library '" ++ l.name ++ "' declares generator version bounds but "
        ++ "the generator version is unknown; version checks skipped")
    return m.incompatibility? generator version tool

end Library

end TemplateRules
