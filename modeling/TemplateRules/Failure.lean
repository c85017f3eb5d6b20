import TemplateRules.Defect
import TemplateRules.File.Tree
import TemplateRules.Rule.Problem
import TemplateRules.Value.Binding

/-!
# Failures

Why work on templates and rule documents fails. A failure is a cause; its wording and the details that
go with it are functions of the cause.

## Main definitions

* `ConfigurationError`: a rule document, a settings file or a source file that cannot be used
* `CustomizationError`: a rule that cannot be applied
* `PatternError`: a pattern or its replacement that cannot be read
* `ManifestError`: a library manifest that cannot be used
* `Failure`: any of them, or a defect of the input
-/

namespace TemplateRules

/-! ## Details -/

/-- One detail of a failure. -/
inductive Detail where
  | text (s : String)
  | number (n : Nat)
  | key (k : Scalar)
  | path (steps : List PathStep)
  | texts (xs : List String)
  | problems (ps : List FieldProblem)
deriving DecidableEq

/-- The details of a failure, by name. -/
abbrev Details := List (String × Detail)

/-! ## Configuration errors -/

/-- A value whose shape is not that of its place in a rule document. -/
inductive Mismatch where
  /-- A value, as messages show it, that has none of the types. -/
  | type (shown : String) (types : List String)
  /-- A property that must be there. -/
  | missing (property : String)
  /-- A text that does not match a pattern. -/
  | unlike (shown : String) (form : String)
deriving DecidableEq

/-- The wording of a mismatch. -/
def Mismatch.message : Mismatch → String
  | .type shown types => shown ++ " is not of type " ++ ", ".intercalate (types.map Text.quoted)
  | .missing property => Text.quoted property ++ " is a required property"
  | .unlike shown form => shown ++ " does not match " ++ Text.quoted form

/-- Why a document cannot be used. -/
inductive ConfigurationCause where
  /-- Text that is not in the notation of documents. -/
  | malformedText
  | empty
  | rootNotMap
  | unknownRootKey (key : Scalar) (allowed : List String)
  /-- A key for which there is a piece of advice. -/
  | misusedKey (path : String) (key : Scalar) (advice : String)
  | unknownKey (path : String) (key : Scalar) (allowed : List String)
  | notMap (path : String)
  | notList (path : String)
  | tooDeep (path : String) (limit : Int)
  | longChain (path : String) (limit : Int)
  | missingKey (path : String) (key : String)
  | mismatch (path : List PathStep) (mismatch : Mismatch)
  | unbound (problems : List FieldProblem)
  | incomplete (category : String) (expected actual : Nat)
  | invalid (problems : List RuleProblem)
  | unreadable (fault : FileFault)
  | malformedSettings
  | unreadableSettings (fault : FileFault)
  | settingsNotMap
  | invalidSettings (problems : List FieldProblem)
  /-- A source file that cannot be read, or whose bytes are no text. -/
  | unreadableSource (fault : Option FileFault)
deriving DecidableEq

/-- A document that cannot be used, by its name. -/
structure ConfigurationError where
  source : String
  cause : ConfigurationCause
deriving DecidableEq

namespace ConfigurationError

/-- Where a mismatch is: the steps joined by dots, or the root. -/
def location (path : List PathStep) : String :=
  let joined := ".".intercalate (path.map PathStep.text)
  if joined.isEmpty then "<root>" else joined

/-- The wording of a configuration error. -/
def message (e : ConfigurationError) : String :=
  let source := e.source
  match e.cause with
  | .malformedText => "Invalid YAML syntax in " ++ source
  | .empty => "Empty YAML content in: " ++ source
  | .rootNotMap => "YAML root must be an object/map in: " ++ source
  | .unknownRootKey key allowed =>
    "Unknown root property '" ++ key.plain ++ "' in " ++ source ++ ". Allowed properties: "
      ++ orderedNames allowed
  | .misusedKey path key advice =>
    "Invalid property '" ++ key.plain ++ "' in " ++ path ++ " in " ++ source ++ ". " ++ advice
  | .unknownKey path key allowed =>
    "Unknown property '" ++ key.plain ++ "' in " ++ path ++ " in " ++ source
      ++ ". Allowed properties: " ++ orderedNames allowed
  | .notMap path => path ++ " must be an object in: " ++ source
  | .notList path => "'" ++ path ++ "' must be a list/array in: " ++ source
  | .tooDeep path limit =>
    path ++ s!" nests conditions deeper than {limit} levels in " ++ source
  | .longChain path limit =>
    "Fallback chain at " ++ path ++ s!" exceeds the maximum depth of {limit} in " ++ source
  | .missingKey path key => path ++ " must have '" ++ key ++ "' property in: " ++ source
  | .mismatch path mismatch =>
    "Schema validation failed for " ++ source ++ " at " ++ location path ++ ": " ++ mismatch.message
  | .unbound _ => "Failed to bind rule document " ++ source
  | .incomplete category expected actual =>
    "Deserialization failure in " ++ source ++ s!": expected {expected} " ++ category
      ++ s!" from YAML but bound {actual}"
  | .invalid problems =>
    "Validation failed for " ++ source ++ ":\n" ++ "\n".intercalate (problems.map RuleProblem.text)
  | .unreadable fault => "Failed to read rule document " ++ source ++ ": " ++ fault.message
  | .malformedSettings => "Failed to parse settings YAML " ++ source
  | .unreadableSettings fault => "Failed to read settings file " ++ source ++ ": " ++ fault.message
  | .settingsNotMap => "Settings file " ++ source ++ " must contain a map"
  | .invalidSettings _ => "Settings validation failed for " ++ source
  | .unreadableSource none => "Failed to read " ++ source
  | .unreadableSource (some fault) => "Failed to read " ++ source ++ ": " ++ fault.message

/-- The details of a configuration error. -/
def details (e : ConfigurationError) : Details :=
  match e.cause with
  | .unreadableSource _ => [("path", .text e.source)]
  | cause => ("source", .text e.source) :: match cause with
    | .unknownRootKey key _ => [("key", .key key)]
    | .misusedKey path key _ => [("path", .text path), ("key", .key key)]
    | .unknownKey path key _ => [("path", .text path), ("key", .key key)]
    | .notMap path => [("path", .text path)]
    | .notList path => [("path", .text path)]
    | .tooDeep path _ => [("path", .text path)]
    | .longChain path _ => [("path", .text path)]
    | .missingKey path key => [("path", .text path), ("key", .text key)]
    | .mismatch path _ => [("path", .path path)]
    | .unbound problems => [("errors", .problems problems)]
    | .incomplete category expected actual =>
      [("category", .text category), ("expected", .number expected), ("actual", .number actual)]
    | .invalid problems => [("errors", .texts (problems.map RuleProblem.text))]
    | .invalidSettings problems => [("errors", .problems problems)]
    | _ => []

end ConfigurationError

/-! ## Customization errors -/

/-- Why a rule cannot be applied to a template. -/
inductive CustomizationCause where
  /-- A chain of fallbacks that is followed beyond the limit. -/
  | longChain (limit : Int) (depth : Nat)
  /-- An insertion without an anchor. -/
  | noAnchor
  /-- A smart insertion without a place. -/
  | noPlace
  /-- A smart replacement without a target. -/
  | noTarget
  | unexpected (defect : Defect)
deriving DecidableEq

/-- A rule that cannot be applied, by the name of the template. -/
structure CustomizationError where
  template : String
  cause : CustomizationCause
deriving DecidableEq

namespace CustomizationError

/-- The wording of a customization error. -/
def message (e : CustomizationError) : String :=
  let start := "Template '" ++ e.template ++ "': "
  match e.cause with
  | .longChain limit _ => start ++ s!"fallback chain exceeds the maximum depth of {limit}"
  | .noAnchor => start ++ "insertion must specify after, before, or at"
  | .noPlace => start ++ "smart insertion must specify semantic or findInsertionPoint"
  | .noTarget => "Smart replacement must specify findAny, semantic, or findPattern"
  | .unexpected defect => start ++ "customization failed: " ++ defect.message

/-- The details of a customization error. -/
def details (e : CustomizationError) : Details :=
  match e.cause with
  | .longChain _ depth => [("template", .text e.template), ("depth", .number depth)]
  | .noTarget => []
  | _ => [("template", .text e.template)]

end CustomizationError

/-! ## Pattern errors -/

/-- A pattern, or a replacement for its matches, that cannot be read. -/
inductive PatternError where
  | pattern (source : String) (fault : Pattern.Malformed)
  | replacement (source text reason : String)
deriving DecidableEq

namespace PatternError

/-- The wording of a pattern error. -/
def message : PatternError → String
  | .pattern source fault =>
    "Invalid regex pattern '" ++ source ++ "': " ++ fault.message source.toList
  | .replacement _ _ reason => reason

/-- The details of a pattern error. -/
def details : PatternError → Details
  | .pattern source _ => [("pattern", .text source)]
  | .replacement source text _ => [("pattern", .text source), ("replace", .text text)]

end PatternError

/-! ## Manifest errors -/

/-- Why a library manifest cannot be used. -/
inductive ManifestCause where
  | malformedText
  | notMap
  | invalid (problems : List FieldProblem)
deriving DecidableEq

/-- A library manifest that cannot be used, by its name. -/
structure ManifestError where
  source : String
  cause : ManifestCause
deriving DecidableEq

namespace ManifestError

/-- The wording of a manifest error. -/
def message (e : ManifestError) : String :=
  match e.cause with
  | .malformedText => "Failed to parse library manifest " ++ e.source
  | .notMap => "Library manifest " ++ e.source ++ " must be a map"
  | .invalid _ => "Invalid library manifest " ++ e.source

/-- The details of a manifest error. -/
def details (e : ManifestError) : Details :=
  ("source", .text e.source) :: match e.cause with
    | .invalid problems => [("errors", .problems problems)]
    | _ => []

end ManifestError

/-! ## Failures -/

/-- Why work fails. -/
inductive Failure where
  | configuration (e : ConfigurationError)
  | customization (e : CustomizationError)
  | pattern (e : PatternError)
  | manifest (e : ManifestError)
  | defect (d : Defect)
deriving DecidableEq

namespace Failure

/-- The wording of a failure. -/
def message : Failure → String
  | .configuration e => e.message
  | .customization e => e.message
  | .pattern e => e.message
  | .manifest e => e.message
  | .defect d => d.message

/-- The details of a failure. -/
def details : Failure → Details
  | .configuration e => e.details
  | .customization e => e.details
  | .pattern e => e.details
  | .manifest e => e.details
  | .defect _ => []

end Failure

/-- Work that may fail and leaves a trace. -/
abbrev Attempt (α : Type) := ExceptT Failure Traced α

/-- Leaves a record of work that may fail. -/
def Attempt.note (level : Level) (channel : Channel) (text : String) : Attempt Unit :=
  ExceptT.lift (Traced.note level channel text)

end TemplateRules
