import TemplateRules.Edit.Literal
import TemplateRules.Text.Quoted

/-!
# Locators

A smart rule does not name one anchor but several candidates, of which the first that occurs counts,
or a concept of the template that has a table of candidates. Candidates are tried in their order in
the list, whatever their order in the text.
-/

namespace TemplateRules

open Text

/-- A candidate for the place of an insertion. -/
structure PatternLocation where
  after : Option String
  before : Option String
deriving DecidableEq

namespace Locator

/-! ## Named points -/

/-- The point before everything. -/
def startOfFile : String := "start_of_file"

/-- The point after everything. -/
def endOfFile : String := "end_of_file"

/-- The named points and their candidates. -/
def points : List (String × List String) := [
  (startOfFile, []),
  (endOfFile, []),
  ("after_license", ["\x7b\x7b>licenseInfo\x7d\x7d", "*/", "# License", "// License"]),
  ("after_package", ["package ", "\x7b\x7bpackage\x7d\x7d", "\x7b\x7b#package\x7d\x7d"]),
  ("end_of_imports",
    ["\x7b\x7b/imports\x7d\x7d", "\x7b\x7b/import\x7d\x7d", "import ", "; // imports end"]),
  ("after_class_declaration",
    ["public class ", "class ", "\x7b\x7bclassname\x7d\x7d", "public interface "]),
  ("after_model_declaration",
    ["\x7b\x7b#model\x7d\x7d", "\x7b\x7b#models\x7d\x7d", "// Model declaration"]),
  ("before_class_end", ["\x7d\n\x7d", "\x7d // class end", "\x7b\x7b/model\x7d\x7d"]),
  ("after_constructor",
    ["// constructor", "\x7b\x7b#generateConstructors\x7d\x7d", "public \x7b\x7bclassname\x7d\x7d("]),
  ("after_fields",
    ["\x7b\x7b/vars\x7d\x7d", "// fields end", "\x7b\x7b#hasVars\x7d\x7d\x7b\x7b/hasVars\x7d\x7d"]),
  ("after_getters_setters",
    ["// getters/setters", "\x7b\x7b/operations\x7d\x7d", "\x7b\x7b/vars\x7d\x7d"])]

/-- The names of the points. -/
def pointNames : List String := points.map (·.1)

/-- Whether a name is that of a point. -/
def isKnown (name : String) : Bool := pointNames.contains name

/-! ## Candidates -/

/-- The first candidate that is not empty and occurs in the text. -/
def firstPresent? (text : String) (candidates : List String) : Option String :=
  candidates.find? fun c => !c.isEmpty && contains text c

/-- Leaves a record of a search. -/
def noteSearch (text : String) : Traced Unit := .note .debug .locators text

/-- Replaces the first occurrence of the first candidate that occurs. -/
def replaceAny (text : String) (candidates : List String) (replacement : String) : Traced String :=
  match firstPresent? text candidates with
  | none => do
    noteSearch ("No candidates matched for smart replacement: " ++ quotedList candidates)
    return text
  | some candidate => do
    noteSearch ("Found candidate '" ++ candidate ++ "' for smart replacement")
    return Edit.replaceFirst text candidate replacement

/-- Inserts at a named point. -/
def insertAtPoint (text point content : String) : Traced String :=
  if point = startOfFile then pure (content ++ text)
  else if point = endOfFile then pure (text ++ content)
  else match points.lookup point with
    | none => do
      .note .warning .locators ("Unknown semantic insertion point: " ++ point)
      return text
    | some candidates =>
      match firstPresent? text candidates with
      | none => do
        noteSearch ("No anchors found for semantic insertion: " ++ point)
        return text
      | some anchor => do
        noteSearch ("Semantic insertion point '" ++ point ++ "' resolved to '" ++ anchor ++ "'")
        Edit.insertAfter text anchor content

/-- Replaces the first candidate of a named concept that occurs. -/
def replaceAtPoint (text point replacement : String) : Traced String :=
  match (points.lookup point).getD [] with
  | [] => do
    noteSearch ("No anchors known for semantic replacement: " ++ point)
    return text
  | candidates => replaceAny text candidates replacement

/-- Inserts at the first location whose anchor occurs. -/
def insertAtFirst (text : String) (locations : List PatternLocation) (content : String) :
    Traced String :=
  match locations with
  | [] => do
    noteSearch "No insertion points matched"
    return text
  | location :: rest =>
    match location.after.filter (contains text), location.before.filter (contains text) with
    | some anchor, _ => do
      noteSearch ("Found insertion point after '" ++ anchor ++ "'")
      Edit.insertAfter text anchor content
    | none, some anchor => do
      noteSearch ("Found insertion point before '" ++ anchor ++ "'")
      Edit.insertBefore text anchor content
    | none, none => insertAtFirst text rest content

end Locator

end TemplateRules
