import TemplateRules.Library.Manifest
import TemplateRules.Text.Quoted
import TemplateRules.Version.Basic

/-!
# Compatibility of libraries

A manifest admits a run if it supports the generator, the tool is new enough, and the generator's
version lies within the declared bounds, ends included. A version that nobody has detected is within
all bounds. A bound that is an empty text is no bound. Versions are compared as what they write, however
long their numerals are.

## Main definitions

* `Incompatibility`: why a manifest does not admit a run
* `Manifest.incompatibility?`: the first reason that there is
-/

namespace TemplateRules

/-- Why a library cannot be used. -/
inductive Incompatibility where
  | generator (name : String) (supported : List String)
  | tool (least current : String)
  | generatorTooOld (least current : String)
  | generatorTooNew (greatest current : String)
deriving DecidableEq

/-- The wording of an incompatibility of a library. -/
def Incompatibility.message (library : String) (i : Incompatibility) : String :=
  let start := "Library '" ++ library ++ "' "
  match i with
  | .generator name supported =>
    start ++ "does not support generator '" ++ name ++ "'. Supported generators: "
      ++ Text.quotedList supported
  | .tool least current =>
    start ++ "requires tool version " ++ least ++ "+ (current: " ++ current ++ ")"
  | .generatorTooOld least current =>
    start ++ "requires generator version " ++ least ++ "+ but detected version is " ++ current
  | .generatorTooNew greatest current =>
    start ++ "supports generator versions up to " ++ greatest ++ " but detected version is " ++ current

namespace Manifest

/-- A bound that is there and not empty. -/
def bound? (version : Option String) : Option String := version.filter fun v => !v.isEmpty

/-- A version that is known. -/
def known? (version : Option String) : Option String :=
  if Version.isKnown version then version else none

/-- Whether the manifest supports a generator. -/
def supportsGenerator (m : Manifest) (generator : String) : Bool :=
  m.supportedGenerators.isEmpty || m.supportedGenerators.contains generator

/-- Whether the manifest bounds the generator's version. -/
def boundsGenerator (m : Manifest) : Bool :=
  (bound? m.minGeneratorVersion).isSome || (bound? m.maxGeneratorVersion).isSome

/-- Why the manifest does not admit a generator. -/
def generatorProblem? (m : Manifest) (generator : String) : Option Incompatibility :=
  if m.supportsGenerator generator then none
  else some (.generator generator m.supportedGenerators)

/-- Why the manifest does not admit a version of the tool. -/
def toolProblem? (m : Manifest) (tool : Option String) : Option Incompatibility := do
  let least ← bound? m.minToolVersion
  let current ← known? tool
  if Version.isAtLeast current least then none else some (.tool least current)

/-- Why the manifest does not admit a version of the generator for being too old. -/
def ageProblem? (m : Manifest) (current : String) : Option Incompatibility := do
  let least ← bound? m.minGeneratorVersion
  if Version.isAtLeast current least then none else some (.generatorTooOld least current)

/-- Why the manifest does not admit a version of the generator for being too new. -/
def noveltyProblem? (m : Manifest) (current : String) : Option Incompatibility := do
  let greatest ← bound? m.maxGeneratorVersion
  if Version.isAbove current greatest then some (.generatorTooNew greatest current) else none

/-- Why the manifest does not admit a version of the generator. -/
def versionProblem? (m : Manifest) (version : Option String) : Option Incompatibility := do
  let current ← known? version
  (m.ageProblem? current).or (m.noveltyProblem? current)

/-- Why the manifest does not admit a run, if it does not. -/
def incompatibility? (m : Manifest) (generator : String) (version tool : Option String) :
    Option Incompatibility :=
  ((m.generatorProblem? generator).or (m.toolProblem? tool)).or (m.versionProblem? version)

/-- Whether bounds on the generator's version are passed over because nobody has detected it. -/
def passesOverBounds (m : Manifest) (generator : String) (version tool : Option String) : Bool :=
  ((m.generatorProblem? generator).or (m.toolProblem? tool)).isNone && m.boundsGenerator
    && !Version.isKnown version

end Manifest

end TemplateRules
