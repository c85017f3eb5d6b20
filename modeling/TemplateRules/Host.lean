import TemplateRules.Engine

/-!
# Texts of the host

A text that the host hands over is a sequence of code points, and some of these may be surrogates, which are
no characters: the host puts them in the place of bytes that are no text, as in the values of an environment.
Such a text has no bytes, and a result that depends on it no key. A document is therefore applied to
characters only, and what has a surrogate anywhere is a defect, which no failure to apply the document is
made of. The texts of documents are characters.

## Main definitions

* `HostText`: a text of code points
* `HostText.text?`: the same text if all its code points are characters
* `HostContext`: a context as the host gives it
* `Engine.applyGiven`: application of a document to what the host gives
-/

namespace TemplateRules

/-! ## Texts -/

/-- A code point. -/
inductive CodePoint where
  | char (c : Char)
  /-- A surrogate, by its distance from the first one, `D800`. -/
  | surrogate (offset : Fin 0x800)
deriving DecidableEq

/-- The character that a code point is, unless it is a surrogate. -/
def CodePoint.char? : CodePoint → Option Char
  | .char c => some c
  | .surrogate _ => none

/-- A text of the host. -/
structure HostText where
  points : List CodePoint
deriving DecidableEq

namespace HostText

/-- A text of characters. -/
def ofString (s : String) : HostText := ⟨s.toList.map .char⟩

/-- The characters of a text without surrogates. -/
def text? (t : HostText) : Option String := (t.points.mapM CodePoint.char?).map String.ofList

end HostText

/-! ## Contexts -/

/-- The inputs that condition sets are evaluated against, as the host gives them. -/
structure HostContext where
  generatorVersion : Option HostText
  template : Option HostText
  properties : List (HostText × HostText)
  environment : List (HostText × HostText)
  detector : Detector

namespace HostContext

/-- A name and its value, if neither has a surrogate. -/
def entry? (e : HostText × HostText) : Option (String × String) :=
  match e.1.text?, e.2.text? with
  | some name, some value => some (name, value)
  | _, _ => none

/-- The context of characters, if there is no surrogate in any of its texts. -/
def context? (x : HostContext) : Option Context := do
  return {
    generatorVersion := ← x.generatorVersion.mapM HostText.text?
    template := ← x.template.mapM HostText.text?
    properties := ← x.properties.mapM entry?
    environment := ← x.environment.mapM entry?
    detector := x.detector }

end HostContext

/-! ## Applying documents -/

/-- Applies a document, if there is one, to what the host gives. The key is made before anything else, so
that a text without bytes is not noticed by the work itself, which would make a failure of it. -/
def Engine.applyGiven (limit : Int) (kept : Results) (template : HostText) (document : Option RuleDocument)
    (x : HostContext) (given : Option String) : Attempt (HostText × Results) :=
  match document with
  | none => pure (template, kept)
  | some d =>
    match template.text?, x.context? with
    | some text, some x => do
      let (result, kept) ← apply limit kept text (some d) x given
      return (.ofString result, kept)
    | _, _ => throw (.defect .surrogates)

end TemplateRules
