import TemplateRules.Condition.Evaluation
import TemplateRules.Edit.Matches
import TemplateRules.Edit.Partial
import TemplateRules.Rule.Document

/-!
# Applying rule documents

A document is applied to a template in one pass: its replacements come first, then its smart
replacements, its insertions and its smart insertions, each in the order of the document. Of a rule and
its fallbacks the first one whose conditions hold is carried out, on the text that the rules before it
have left; conditions look at the context of the pass and never at that text.

## Main definitions

* `Pass`: what a pass goes by
* `Pass.select`: the rule of a chain that is carried out
* `Replacement.edit`, `SmartReplacement.edit`, `Insertion.edit`, `SmartInsertion.edit`: the edits
* `Pass.applyDocument`: the whole pass
-/

namespace TemplateRules

/-- What a pass over a template goes by: the template's name, the greatest number of fallbacks, the
context of conditions and the partials. -/
structure Pass where
  template : String
  limit : Int
  context : Context
  partials : Table String

/-- Leaves a record of the engine. -/
def noteRule (level : Level) (text : String) : Attempt Unit := Attempt.note level .engine text

namespace Pass

/-- A rule that cannot be applied. -/
def refuse {α : Type} (p : Pass) (cause : CustomizationCause) : Attempt α :=
  throw (.customization ⟨p.template, cause⟩)

/-- Whether conditions hold in the pass. -/
def holds (p : Pass) (conditions : Option ConditionSet) : Attempt Bool :=
  ExceptT.lift (p.context.meets conditions)

/-- Contents with the partials of the pass. -/
def expand (p : Pass) (content : String) : Attempt String :=
  ExceptT.lift (Partials.expand content p.partials)

/-! ## Selection -/

/-- The first rule of a chain whose conditions hold, where the chain begins at a depth. A fallback
beyond the limit is refused before its conditions are looked at. -/
def select {α : Type} (p : Pass) (kind : String) (conditions : α → Option ConditionSet) :
    (depth : Nat) → List α → Attempt (Option α)
  | _, [] => pure none
  | depth, rule :: fallbacks => do
    -- The limit is on fallbacks, and the rule itself is none: it has depth zero.
    if (depth : Int) > p.limit then p.refuse (.longChain p.limit depth)
    if ← p.holds (conditions rule) then return some rule
    if fallbacks.isEmpty then
      noteRule .debug (kind ++ " conditions not met and no fallback provided")
      return none
    noteRule .debug ("Primary " ++ kind.decapitalize ++ " conditions not met, trying fallback")
    p.select kind conditions (depth + 1) fallbacks

/-- The insertion of a chain that is carried out. -/
def selectInsertion (p : Pass) (depth : Nat) (chain : List Insertion) : Attempt (Option Insertion) :=
  p.select "Insertion" Insertion.conditions depth chain

/-- The replacement of a chain that is carried out. -/
def selectReplacement (p : Pass) (chain : List Replacement) : Attempt (Option Replacement) :=
  p.select "Replacement" Replacement.conditions 0 chain

end Pass

/-! ## Edits -/

/-- Carries out a replacement. -/
def Replacement.edit (p : Pass) (r : Replacement) (text : String) : Attempt String := do
  let replacement ← p.expand r.replacement
  match r.kind with
  | .pattern => Edit.replaceMatches text r.find replacement
  | .literal => ExceptT.lift (Edit.replaceAll text r.find replacement)

/-- Carries out a smart replacement: candidates count before a named point, and a point before
variants. -/
def SmartReplacement.edit (p : Pass) (r : SmartReplacement) (text : String) : Attempt String := do
  let replacement ← p.expand r.replacement
  match r.candidates, r.point, r.variants with
  | some candidates, _, _ => ExceptT.lift (Locator.replaceAny text candidates replacement)
  | none, some point, _ => ExceptT.lift (Locator.replaceAtPoint text point replacement)
  | none, none, some found => ExceptT.lift (Locator.replaceAny text found.variants replacement)
  | none, none, none => p.refuse .noTarget

/-- Inserts content at the edge that a word names, without regard to case and surrounding blanks. -/
def Insertion.atEdge (edge text content : String) : Attempt String :=
  let word := Text.lower (Text.strip edge)
  if word = "start" then return content ++ text
  else if word = "end" then return text ++ content
  else do
    noteRule .warning ("Unknown insertion location: " ++ edge)
    return text

/-- Carries out an insertion: the anchor `after` counts before the anchor `before`, and both before an
edge. -/
def Insertion.edit (p : Pass) (i : Insertion) (text : String) : Attempt String := do
  let content ← p.expand i.content
  match i.after, i.before, i.edge with
  | some anchor, _, _ => ExceptT.lift (Edit.insertAfter text anchor content)
  | none, some anchor, _ => ExceptT.lift (Edit.insertBefore text anchor content)
  | none, none, some edge => Insertion.atEdge edge text content
  | none, none, none => p.refuse .noAnchor

/-- Carries out a smart insertion: a named point counts before locations. -/
def SmartInsertion.edit (p : Pass) (i : SmartInsertion) (text : String) : Attempt String := do
  let content ← p.expand i.content
  match i.point, i.locations with
  | some point, _ => ExceptT.lift (Locator.insertAtPoint text point content)
  | none, some locations => ExceptT.lift (Locator.insertAtFirst text locations content)
  | none, none => p.refuse .noPlace

/-! ## Rules of a pass -/

namespace Pass

/-- The text after an edit, or as it is where nothing was selected. -/
def carryOut {α : Type} (edit : α → String → Attempt String) (selected : Option α) (text : String) :
    Attempt String :=
  match selected with
  | some rule => edit rule text
  | none => pure text

/-- Applies a replacement with fallbacks. -/
def applyReplacement (p : Pass) (c : Chain Replacement) (text : String) : Attempt String := do
  carryOut (Replacement.edit p) (← p.selectReplacement c.rules) text

/-- Applies a smart replacement. -/
def applySmartReplacement (p : Pass) (r : SmartReplacement) (text : String) : Attempt String := do
  if ← p.holds r.conditions then r.edit p text
  else
    noteRule .debug "Smart replacement conditions not met"
    return text

/-- Applies an insertion with fallbacks. -/
def applyInsertion (p : Pass) (c : Chain Insertion) (text : String) : Attempt String := do
  carryOut (Insertion.edit p) (← p.selectInsertion 0 c.rules) text

/-- Applies a smart insertion; its fallbacks are plain insertions. -/
def applySmartInsertion (p : Pass) (i : SmartInsertion) (text : String) : Attempt String := do
  if ← p.holds i.conditions then i.edit p text
  else if i.fallbacks.isEmpty then
    noteRule .debug "Smart insertion conditions not met and no fallback provided"
    return text
  else
    noteRule .debug "Smart insertion conditions not met, trying fallback"
    -- The smart insertion was the first rule of the chain, so that its fallbacks begin at depth one.
    carryOut (Insertion.edit p) (← p.selectInsertion 1 i.fallbacks) text

/-! ## The pass -/

/-- Leaves a record where the project asks for a trace of every rule. -/
def noteStep (p : Pass) (text : String) : Attempt Unit :=
  if p.context.isDebugging then noteRule .debug (p.template ++ ": " ++ text) else pure ()

/-- Applies rules in order, each to the text that those before it have left. -/
def applyAll {α : Type} (apply : (position : Nat) → α → String → Attempt String) :
    (position : Nat) → List α → String → Attempt String
  | _, [], text => pure text
  | position, rule :: rules, text => do
    applyAll apply (position + 1) rules (← apply position rule text)

/-- Applies a replacement, with its records. -/
def replacementStep (p : Pass) (position : Nat) (c : Chain Replacement) (text : String) :
    Attempt String := do
  p.noteStep (s!"replacement #{position} find=" ++ Text.quoted c.first.find)
  p.applyReplacement c text

/-- Applies an insertion, with its records. -/
def insertionStep (p : Pass) (position : Nat) (c : Chain Insertion) (text : String) :
    Attempt String := do
  let result ← p.applyInsertion c text
  p.noteStep (s!"insertion #{position} changed template: " ++ (Scalar.bool (text != result)).plain)
  return result

/-- Applies a document to a template. -/
def applyDocument (p : Pass) (d : RuleDocument) (template : String) : Attempt String := do
  if ← p.holds d.conditions then
    let text ← applyAll p.replacementStep 0 d.replacements template
    let text ← applyAll (fun _ => p.applySmartReplacement) 0 d.smartReplacements text
    let text ← applyAll p.insertionStep 0 d.insertions text
    let text ← applyAll (fun _ => p.applySmartInsertion) 0 d.smartInsertions text
    p.noteStep s!"final result length {text.length}"
    return text
  else
    noteRule .debug ("Global conditions not met for " ++ p.template ++ ", leaving template unchanged")
    return template

end Pass

end TemplateRules
