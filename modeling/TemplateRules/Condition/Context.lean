import TemplateRules.Feature
import TemplateRules.Table
import TemplateRules.Text.Blank
import TemplateRules.Trace

/-!
# Evaluation contexts

What condition sets are evaluated against: a snapshot of the template, the generator's version, the
properties of the project and the environment. The answers of probes into the snapshot are remembered,
each under its probe, for as long as the context is used.

## Main definitions

* `Context`: the inputs of an evaluation
* `Memo`: the remembered answers
* `Context.templateContains`, `Context.hasFeature`: the probes
* `Context.hasProperty`, `Context.hasVariable`: conditions on one property or variable
-/

namespace TemplateRules

open Text

/-! ## Contexts -/

/-- How features are detected: by their markers, or from a table of answers. -/
inductive Detector where
  | markers
  | answers (table : List (String × Bool))
deriving DecidableEq

/-- Whether a template has a feature; what a table does not hold is absent. -/
def Detector.hasFeature (d : Detector) (template feature : String) : Bool :=
  match d with
  | .markers => Feature.isIn template feature
  | .answers table => (table.lookup feature).getD false

/-- The inputs that condition sets are evaluated against, in characters. The host may give surrogates besides,
which are seen to before an evaluation. -/
structure Context where
  generatorVersion : Option String
  template : Option String
  properties : Table String
  environment : Table String
  detector : Detector

/-! ## Probes -/

/-- The answers of earlier probes, latest first. -/
structure Memo where
  contained : List (String × Bool)
  features : List (String × Bool)

/-- A memo without answers. -/
def Memo.empty : Memo := ⟨[], []⟩

/-- A computation that may use and add remembered answers and leaves a trace. -/
abbrev Probing (α : Type) := StateT Memo Traced α

namespace Context

/-- Whether the snapshot contains a text. -/
def snapshotContains (c : Context) (probe : String) : Bool :=
  match c.template with
  | none => false
  | some t => contains t probe

/-- Whether the snapshot has a feature. -/
def snapshotHasFeature (c : Context) (feature : String) : Bool :=
  c.detector.hasFeature (c.template.getD "") feature

/-- Whether the template contains a text, as remembered or else as in the snapshot. -/
def templateContains (c : Context) (probe : String) : Probing Bool := fun memo =>
  match memo.contained.lookup probe with
  | some answer => pure (answer, memo)
  | none =>
    let answer := c.snapshotContains probe
    pure (answer, { memo with contained := (probe, answer) :: memo.contained })

/-- Whether the template has a feature, as remembered or else as in the snapshot. -/
def hasFeature (c : Context) (feature : String) : Probing Bool := fun memo =>
  match memo.features.lookup feature with
  | some answer => pure (answer, memo)
  | none =>
    let answer := c.snapshotHasFeature feature
    pure (answer, { memo with features := (feature, answer) :: memo.features })

/-! ## Properties and variables -/

/-- Whether a value stands for what is switched off. -/
def isOff (value : String) : Bool := lower value = "false"

/-- Whether a table satisfies `name` or `name=value`: the value is the given one, or else it is there
and not switched off, and not empty where `nonempty` asks for that. -/
def satisfiesSpec (values : Table String) (nonempty : Bool) (spec : String) : Bool :=
  match cutAt? '=' spec with
  -- Blanks around the two sides of the sign do not count, but those of the value do.
  | some (name, expected) => values.lookup (strip name) = some (strip expected)
  | none =>
    match values.lookup (strip spec) with
    | none => false
    | some value => !(nonempty && value.isEmpty) && !isOff value

/-- Whether the properties satisfy a specification; an empty one is never satisfied. -/
def hasProperty (c : Context) (spec : String) : Bool :=
  !spec.isEmpty && satisfiesSpec c.properties false spec

/-- Whether the environment satisfies a specification; an empty one is never satisfied. -/
def hasVariable (c : Context) (spec : String) : Bool :=
  !spec.isEmpty && satisfiesSpec c.environment true spec

/-- The value of a property. -/
def propertyValue? (c : Context) (name : String) : Option String := c.properties.lookup name

/-- The value of an environment variable. -/
def environmentValue? (c : Context) (name : String) : Option String := c.environment.lookup name

/-- Whether the project asks for a trace of every rule. -/
def isDebugging (c : Context) : Bool := lower ((c.propertyValue? "debug").getD "") = "true"

end Context

end TemplateRules
